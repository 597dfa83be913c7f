import QueryGate.Declaration
import QueryGate.Gate.Report
import QueryGate.Operation.Catalog
import QueryGate.Params.Basic
import QueryGate.Settings.Basic

/-! Gates: the parameters of one request on their way to the operations of a catalog. A parameter that cannot be
used is skipped and reported; only a failure of the store ends a pass. -/
namespace QueryGate

/-- The steps of fetching a page. -/
inductive Stage
  | info | window | fetch
  deriving DecidableEq

def Stage.text : Stage → String
  | info => "computing page metadata"
  | window => "applying limit and offset"
  | fetch => "fetching rows"

/-- A failure of the store, and where it came up. -/
inductive GateError
  | operation (name key : String) (cause : Failure)
  | backend (stage : Stage) (cause : Failure)
  deriving DecidableEq

namespace GateError

def message : GateError → String
  | operation name key _ => "operation '" ++ name ++ "' failed (parameter '" ++ key ++ "')"
  | backend stage _ => "backend failed while " ++ stage.text

def cause : GateError → Failure
  | operation _ _ f => f
  | backend _ f => f

end GateError

/-- What a pass changes: the query, the budgets and the report. -/
structure Progress (B : Type) where
  backend : B
  /-- A gate without an allow-list lets every operation through. -/
  allowed : Option AllowList
  report : List Outcome

namespace Progress

variable {B : Type}

def record (p : Progress B) (key name : String) (status : Status) : Progress B :=
  { p with report := p.report ++ [⟨key, name, status⟩] }

/-- Why the allow-list stops a call, if there is one and it does. -/
def denial? (p : Progress B) (name : String) (args : Args) : Option Denial :=
  p.allowed.bind (·.denial? name args)

/-- Calls an operation that nothing stands in the way of. Only a call that succeeds costs budget. -/
def call (op : Operation B) (p : Progress B) (key name : String) (args : Args) : Except Failure Unit × Progress B :=
  match (op.run args).run p.backend with
  | (.ok (), backend) =>
    (.ok (), record { p with backend, allowed := p.allowed.map (·.consume name) } key name .applied)
  | (.error e, backend) =>
    match e.argument? with
    | .ok bad => (.ok (), record { p with backend } key name (.skipped (.badArguments bad)))
    | .error f => (.error f, { p with backend })

/-- What a well-formed parameter leads to. -/
def dispatch (catalog : Catalog B) (p : Progress B) (key name : String) (args : Args) :
    Except Failure Unit × Progress B :=
  match catalog.get? name with
  | none => (.ok (), p.record key name (.skipped .unknownOperation))
  | some op =>
    match p.denial? name args with
    | some d => (.ok (), p.record key name (.skipped (.denied d)))
    | none =>
      if args.length = op.arity then call op p key name args
      else (.ok (), p.record key name (.skipped (.badArguments (.arity op.arity args.length))))

/-- One parameter of a pass. Those that ask for a page are never dispatched. -/
def step (catalog : Catalog B) (settings : Settings) (p : Progress B) (key : String) (value : Parsed) :
    Except GateError Unit × Progress B :=
  let name := Operation.nameOf key
  match value with
  | .error m => (.ok (), p.record key name (.skipped (.malformed m)))
  | .ok args =>
    if settings.isPaging key then (.ok (), p)
    else
      match p.dispatch catalog key name args with
      | (.ok (), p) => (.ok (), p)
      | (.error f, p) => (.error (.operation name key f), p)

/-- The parameters in order, up to the first failure. -/
def run (catalog : Catalog B) (settings : Settings) :
    Progress B → List (String × Parsed) → Except GateError Unit × Progress B
  | p, [] => (.ok (), p)
  | p, (key, value) :: rest =>
    match p.step catalog settings key value with
    | (.ok (), p) => run catalog settings p rest
    | (.error e, p) => (.error e, p)

end Progress

structure Gate (B : Type) where
  catalog : Catalog B
  params : Params
  settings : Settings
  progress : Progress B

namespace Gate

variable {B Row : Type}

def ofParams (backend : B) (catalog : Catalog B) (params : Params) (settings : Settings) : Gate B :=
  ⟨catalog, params, settings, ⟨backend, none, []⟩⟩

def ofRaw (backend : B) (catalog : Catalog B) (raw : RawParams) (settings : Settings) : Gate B :=
  ofParams backend catalog (raw.parse settings.scalars) settings

/-- Declares an operation. The first declaration restricts the gate to those declared. -/
def register (g : Gate B) (d : Declaration) : Gate B :=
  let list := g.progress.allowed.getD .empty
  let calls := d.maxCalls.getD g.settings.defaultMaxCalls
  { g with progress := { g.progress with allowed := some (list.allow d.name d.rules calls) } }

def registerAll (g : Gate B) (ds : List Declaration) : Gate B := ds.foldl register g

def isRestricted (g : Gate B) : Bool := g.progress.allowed.isSome

def remaining? (g : Gate B) (name : String) : Option UInt32 := g.progress.allowed.bind (·.remaining? name)

/-- One pass over all parameters, with a new report. Budgets go on from where the last pass left them. -/
def filter (g : Gate B) : Except GateError Unit × Gate B :=
  let (r, p) := Progress.run g.catalog g.settings { g.progress with report := [] } g.params.entries
  (r, { g with progress := p })

/-- There is no page before the first. -/
def currentPage (g : Gate B) : UInt64 := max (g.settings.page (g.params.first? g.settings.pageParam)) 1

def perPage (g : Gate B) : UInt64 := g.settings.perPage (g.params.first? g.settings.perPageParam)

/-- The page that the request asks for. Place and rows are found on copies of the query, so that the window neither
changes the count nor stays behind. -/
def currentRows [Backend B Row] (g : Gate B) : Except GateError (Page Row) := do
  let page := g.currentPage
  let perPage := g.perPage
  let info ← ((Backend.pageInfo perPage page).run g.progress.backend).1.mapError (.backend .info)
  let (windowed, backend) := (Backend.applyWindow perPage (PageInfo.skipped page perPage)).run g.progress.backend
  windowed.mapError (.backend .window)
  let rows ← (Backend.fetchRows.run backend).1.mapError (.backend .fetch)
  return ⟨rows, info⟩

/-- A pass, and then the page that the request asks for. -/
def paginate [Backend B Row] (g : Gate B) : Except GateError (Page Row) × Gate B :=
  match g.filter with
  | (.ok (), g) => (g.currentRows, g)
  | (.error e, g) => (.error e, g)

end Gate
end QueryGate
