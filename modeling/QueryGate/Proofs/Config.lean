import QueryGate.Config
import QueryGate.Proofs.Gate.Alike

/-! Configurations and their gates. No operation is declared twice, and so the order of the declarations is of no
account: gates with the same declarations in another order cannot be told apart. -/
namespace QueryGate

theorem firstRepeated?_eq_some_iff {seen names : List String} {name : String} :
    firstRepeated? seen names = some name ↔
      ∃ pre post, names = pre ++ name :: post ∧ firstRepeated? seen pre = none ∧ (name ∈ seen ∨ name ∈ pre) := by
  induction names generalizing seen with
  | nil => simp [firstRepeated?]
  | cons n rest ih =>
    constructor
    · intro h
      by_cases hn : n ∈ seen
      · obtain rfl : n = name := by simpa [firstRepeated?, hn] using h
        exact ⟨[], rest, rfl, rfl, .inl hn⟩
      · obtain ⟨pre, post, rfl, hpre, hname⟩ := ih.mp (by simpa [firstRepeated?, hn] using h)
        exact ⟨n :: pre, post, rfl, by simpa [firstRepeated?, hn] using hpre,
          by simpa [or_left_comm, or_assoc] using hname⟩
    · rintro ⟨pre, post, h, hpre, hname⟩
      cases pre with
      | nil =>
        obtain ⟨rfl, -⟩ := List.cons.inj h
        have hn : n ∈ seen := by simpa using hname
        simp [firstRepeated?, hn]
      | cons m pre =>
        obtain ⟨rfl, rfl⟩ := List.cons.inj h
        by_cases hn : n ∈ seen
        · simp [firstRepeated?, hn] at hpre
        · have hlater : firstRepeated? (n :: seen) (pre ++ name :: post) = some name :=
            ih.mpr ⟨pre, post, rfl, by simpa [firstRepeated?, hn] using hpre,
              by simpa [or_left_comm, or_assoc] using hname⟩
          simpa [firstRepeated?, hn] using hlater

namespace Config

/-- A declaration whose name an earlier one has, after declarations that have each a name of their own. -/
def FirstRepeat (ds : List Declaration) (d : Declaration) : Prop :=
  ∃ pre post, ds = pre ++ d :: post ∧ (pre.map Declaration.name).Nodup ∧ d.name ∈ pre.map Declaration.name

theorem firstRepeated?_names_eq_some_iff {ds : List Declaration} {name : String} :
    firstRepeated? [] (ds.map Declaration.name) = some name ↔ ∃ d, FirstRepeat ds d ∧ d.name = name := by
  rw [firstRepeated?_eq_some_iff]
  constructor
  · rintro ⟨names, names', h, hnodup, hname⟩
    obtain ⟨pre, rest, rfl, rfl, hrest⟩ := List.map_eq_append_iff.mp h
    obtain ⟨d, post, rfl, rfl, rfl⟩ := List.map_eq_cons_iff.mp hrest
    exact ⟨d, ⟨pre, post, rfl, (firstRepeated?_eq_none_iff.mp hnodup).1, by simpa using hname⟩, rfl⟩
  · rintro ⟨d, ⟨pre, post, rfl, hnodup, hname⟩, rfl⟩
    have hpre : firstRepeated? [] (pre.map Declaration.name) = none :=
      firstRepeated?_eq_none_iff.mpr ⟨hnodup, by simp⟩
    exact ⟨pre.map Declaration.name, post.map Declaration.name, by simp, hpre, .inr hname⟩

variable {settings : Settings} {ds : List Declaration}

theorem of_eq_ok_iff {c : Config} : of settings ds = .ok c ↔ c.settings = settings ∧ c.declarations = ds := by
  unfold of
  split
  · rename_i name h
    constructor
    · intro hc
      cases hc
    · rintro ⟨-, rfl⟩
      rw [firstRepeated?_eq_none_iff.mpr ⟨c.distinct, by simp⟩] at h
      cases h
  · constructor
    · rintro ⟨⟩
      exact ⟨rfl, rfl⟩
    · rintro ⟨rfl, rfl⟩
      rfl

theorem of_eq_error_iff {e : ConfigError} :
    of settings ds = .error e ↔ ∃ d, FirstRepeat ds d ∧ e = .duplicateOperation d.name := by
  have hfirst : of settings ds = .error e ↔
      ∃ name, firstRepeated? [] (ds.map Declaration.name) = some name ∧ e = .duplicateOperation name := by
    unfold of
    split
    · rename_i name h
      simp [h, eq_comm]
    · rename_i h
      simp [h]
  rw [hfirst]
  simp only [firstRepeated?_names_eq_some_iff]
  constructor
  · rintro ⟨-, ⟨d, hd, rfl⟩, rfl⟩
    exact ⟨d, hd, rfl⟩
  · rintro ⟨d, hd, rfl⟩
    exact ⟨d.name, ⟨d, hd, rfl⟩, rfl⟩

theorem exists_of_eq_ok (hn : (ds.map Declaration.name).Nodup) : ∃ c, of settings ds = .ok c :=
  ⟨⟨settings, ds, hn⟩, of_eq_ok_iff.mpr ⟨rfl, rfl⟩⟩

theorem isOk_of_iff : (of settings ds).isOk = true ↔ (ds.map Declaration.name).Nodup := by
  constructor
  · intro h
    cases hc : of settings ds with
    | error e => simp [hc, Except.isOk, Except.toBool] at h
    | ok c =>
      obtain ⟨-, rfl⟩ := of_eq_ok_iff.mp hc
      exact c.distinct
  · intro hn
    obtain ⟨c, hc⟩ : ∃ c, of settings ds = .ok c := exists_of_eq_ok hn
    simp [hc, Except.isOk, Except.toBool]

section Gate

variable {B : Type} (c : Config) (backend : B) (catalog : Catalog B) (raw : RawParams)

theorem isRestricted_gate : (c.gate backend catalog raw).isRestricted = c.isRestricted := by
  rw [gate, Gate.isRestricted, Gate.isSome_allowed_registerAll]
  exact Bool.or_false _

theorem get?_gate (name : String) :
    (c.gate backend catalog raw).progress.allowed.bind (·.get? name) =
      (Declaration.latest? c.declarations name).map (Declaration.allowance c.settings.defaultMaxCalls) := by
  rw [gate, Gate.get?_registerAll]
  exact Option.or_none

theorem remaining?_gate_of_mem {d : Declaration} (hd : d ∈ c.declarations) :
    (c.gate backend catalog raw).remaining? d.name = some (d.budget c.settings.defaultMaxCalls) := by
  have hlatest := (Declaration.latest?_eq_some_iff c.distinct).mpr ⟨hd, rfl⟩
  change Progress.remaining? _ _ = _
  rw [Progress.remaining?_eq, get?_gate, hlatest]
  rfl

theorem remaining?_gate_of_not_mem {name : String} (hname : name ∉ c.declarations.map Declaration.name) :
    (c.gate backend catalog raw).remaining? name = none := by
  change Progress.remaining? _ _ = _
  rw [Progress.remaining?_eq, get?_gate, Declaration.latest?_eq_none_iff.mpr hname]
  rfl

/-- Only declared operations are allowed, if there are any. -/
theorem denial?_gate_of_not_mem {name : String} (hc : c.isRestricted = true)
    (hname : name ∉ c.declarations.map Declaration.name) (args : Args) :
    (c.gate backend catalog raw).progress.denial? name args = some .notAllowed := by
  have hget := get?_gate c backend catalog raw name
  rw [Declaration.latest?_eq_none_iff.mpr hname] at hget
  rw [← isRestricted_gate c backend catalog raw] at hc
  obtain ⟨l, hl⟩ := Option.isSome_iff_exists.mp hc
  rw [hl] at hget
  have hl' : l.get? name = none := hget
  simp only [Progress.denial?, hl, Option.bind_some, AllowList.denial?, hl']

theorem alike_gate {c c' : Config} (hsettings : c.settings = c'.settings)
    (hperm : c.declarations.Perm c'.declarations) (backend : B) (catalog : Catalog B) (raw : RawParams) :
    (c.gate backend catalog raw).Alike (c'.gate backend catalog raw) := by
  unfold gate
  rw [hsettings]
  exact Gate.alike_registerAll _ hperm.isEmpty_eq (Declaration.latest?_perm c.distinct hperm)

end Gate

/-- No operation is declared twice, the order of the declarations makes no difference, and nothing else is allowed. -/
theorem declarations_unordered (settings : Settings) (ds : List Declaration) :
    ((of settings ds).isOk = true ↔ (ds.map Declaration.name).Nodup) ∧
    (∀ e, of settings ds = .error e ↔ ∃ d, FirstRepeat ds d ∧ e = .duplicateOperation d.name) ∧
    (∀ text, (shape.read? text).bind parts? = some (settings, ds) →
      ofYaml text = of settings ds ∧ ofFile (some text) = of settings ds) ∧
    ∀ c, of settings ds = .ok c →
      c.settings = settings ∧ c.declarations = ds ∧
      (∀ ds', ds'.Perm ds → ∃ c', of settings ds' = .ok c' ∧ c'.settings = settings ∧ c'.declarations = ds' ∧
        ∀ {B Row : Type} [Backend B Row] (backend : B) (catalog : Catalog B) (raw : RawParams) (ms : List Move),
          ((c'.gate backend catalog raw).after ms).LooksLike ((c.gate backend catalog raw).after ms)) ∧
      ∀ {B : Type} (backend : B) (catalog : Catalog B) (raw : RawParams),
        let g := c.gate backend catalog raw
        (g.isRestricted = true ↔ ds ≠ []) ∧
        (∀ d ∈ ds, g.remaining? d.name = some (d.maxCalls.getD settings.defaultMaxCalls)) ∧
        ∀ name, name ∉ ds.map Declaration.name →
          g.remaining? name = none ∧ (ds ≠ [] → ∀ args, g.progress.denial? name args = some .notAllowed) := by
  refine ⟨isOk_of_iff, fun e => of_eq_error_iff, fun text h => ?_, fun c hc => ?_⟩
  · have hyaml : ofYaml text = of settings ds := by rw [ofYaml, h]
    exact ⟨hyaml, hyaml⟩
  obtain ⟨rfl, rfl⟩ := of_eq_ok_iff.mp hc
  have hrestricted : c.isRestricted = true ↔ c.declarations ≠ [] := by simp [isRestricted]
  refine ⟨rfl, rfl, fun ds' hperm => ?_, fun backend catalog raw => ⟨?_, ?_, fun name hname => ⟨?_, ?_⟩⟩⟩
  · have hn : (ds'.map Declaration.name).Nodup := (hperm.map Declaration.name).nodup_iff.mpr c.distinct
    obtain ⟨c', hc'⟩ : ∃ c', of c.settings ds' = .ok c' := exists_of_eq_ok hn
    obtain ⟨hsettings, rfl⟩ := of_eq_ok_iff.mp hc'
    exact ⟨c', hc', hsettings, rfl, fun backend catalog raw ms =>
      ((alike_gate hsettings hperm backend catalog raw).after ms).looksLike⟩
  · rw [isRestricted_gate, hrestricted]
  · exact fun d hd => remaining?_gate_of_mem c backend catalog raw hd
  · exact remaining?_gate_of_not_mem c backend catalog raw hname
  · exact fun hne => denial?_gate_of_not_mem c backend catalog raw (hrestricted.mpr hne) hname

/-- The second `where` comes before the second `sort`. -/
example :
    let declare := fun name => (⟨name, [], none⟩ : Declaration)
    of {} [declare "sort", declare "where", declare "where", declare "sort"] = .error (.duplicateOperation "where") := by
  rfl

end Config
end QueryGate
