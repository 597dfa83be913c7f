import QueryGate.Bracket.Render
import QueryGate.Proofs.Number

/-! Reading what was rendered. The elements of a list are cut apart where they were put together, whatever their texts
hold, and inference gives each argument back with its kind. -/
namespace QueryGate
namespace Bracket

/-- The piece that an argument becomes. -/
def piece : Arg → Piece
  | .text s => ⟨s.toList, true⟩
  | a => ⟨element a, false⟩

theorem element_bool (b : Bool) :
    element (.bool b) = if b then ['t', 'r', 'u', 'e'] else ['f', 'a', 'l', 's', 'e'] := by
  cases b <;> rfl

@[simp] theorem element_int (n : Int64) : element (.int n) = Binary64.integerText n.toInt := String.toList_ofList

@[simp] theorem element_float (x : Binary64) : element (.float x) = x.text .exact := rfl

theorem pieces?_quote (inQuotes hadQuotes : Bool) (acc rest : List Char) :
    pieces? inQuotes hadQuotes acc ('\'' :: rest) = pieces? (!inQuotes) true acc rest := by
  cases rest <;> simp [pieces?]

theorem pieces?_escape (hadQuotes : Bool) (acc : List Char) (d : Char) (rest : List Char) :
    pieces? true hadQuotes acc ('\\' :: d :: rest) = pieces? true hadQuotes (d :: acc) rest := by
  simp [pieces?]

theorem pieces?_comma (hadQuotes : Bool) (acc rest : List Char) :
    pieces? false hadQuotes acc (',' :: rest) = (pieces? false false [] rest).map (⟨acc.reverse, hadQuotes⟩ :: ·) := by
  cases rest <;> simp [pieces?]

theorem pieces?_plain {inQuotes : Bool} {c : Char} (hq : c ≠ '\'') (he : ¬(c = '\\' ∧ inQuotes = true))
    (hc : ¬(c = ',' ∧ inQuotes = false)) (hadQuotes : Bool) (acc rest : List Char) :
    pieces? inQuotes hadQuotes acc (c :: rest) = pieces? inQuotes hadQuotes (c :: acc) rest := by
  cases rest <;> simp only [pieces?, if_neg hq, if_neg he, if_neg hc]

/-- Inside quotes, an escaped text is taken in as the text itself. -/
theorem pieces?_flatMap_escaped (hadQuotes : Bool) (acc cs rest : List Char) :
    pieces? true hadQuotes acc (cs.flatMap escaped ++ rest) = pieces? true hadQuotes (cs.reverse ++ acc) rest := by
  induction cs generalizing acc with
  | nil => rfl
  | cons c cs ih =>
    have hc : pieces? true hadQuotes acc (escaped c ++ (cs.flatMap escaped ++ rest)) =
        pieces? true hadQuotes (c :: acc) (cs.flatMap escaped ++ rest) := by
      unfold escaped
      split
      · exact pieces?_escape ..
      · rename_i h
        exact pieces?_plain (fun e => h (.inl e)) (fun e => h (.inr e.1)) (by simp) ..
    rw [List.flatMap_cons, List.append_assoc, hc, ih, List.reverse_cons, List.append_assoc, List.singleton_append]

theorem pieces?_bare {cs : List Char} (h : ∀ c ∈ cs, c ≠ '\'' ∧ c ≠ ',') (hadQuotes : Bool) (acc rest : List Char) :
    pieces? false hadQuotes acc (cs ++ rest) = pieces? false hadQuotes (cs.reverse ++ acc) rest := by
  induction cs generalizing acc with
  | nil => rfl
  | cons c cs ih =>
    obtain ⟨hq, hc⟩ := h c List.mem_cons_self
    rw [List.cons_append, pieces?_plain hq (by simp) (by simp [hc]), ih fun d hd => h d (List.mem_cons_of_mem c hd),
      List.reverse_cons, List.append_assoc, List.singleton_append]

theorem bare_of_isMark {cs : List Char} (h : ∀ c ∈ cs, Binary64.Literal.isMark c = true) :
    ∀ c ∈ cs, c ≠ '\'' ∧ c ≠ ',' := by
  intro c hc
  have hm := h c hc
  refine ⟨?_, ?_⟩
  · rintro rfl
    cases hm
  · rintro rfl
    cases hm

theorem bare_element {a : Arg} (h : a.isText = false) : ∀ c ∈ element a, c ≠ '\'' ∧ c ≠ ',' := by
  cases a with
  | bool b =>
    rw [element_bool]
    cases b <;> simp
  | int n =>
    rw [element_int]
    exact bare_of_isMark (Binary64.Literal.isMark_integerText n.toInt)
  | float x =>
    cases x with
    | nan => simp [Binary64.text]
    | infinite negative => cases negative <;> simp [Binary64.text]
    | finite negative n fits =>
      rw [element_float]
      exact bare_of_isMark (Binary64.isMark_text rfl)
  | text s => cases h

theorem element_ne_nil (a : Arg) : element a ≠ [] := by
  cases a with
  | bool b =>
    rw [element_bool]
    cases b <;> simp
  | int n =>
    rcases Text.integerText_cases n.toInt with ⟨-, ht⟩ | ⟨-, ht⟩ <;> simp [ht, Nat.toDigits_ne_nil]
  | float x =>
    cases x with
    | nan => simp [Binary64.text]
    | infinite negative => cases negative <;> simp [Binary64.text]
    | finite negative n fits =>
      obtain ⟨l, hl, ht⟩ := Binary64.exists_text_eq (x := .finite negative n fits) rfl
      obtain ⟨c, rest, -, hc, -, -, -⟩ := Binary64.Literal.text_eq_cons hl
      rcases ht with ⟨ht, -⟩ | ⟨ht, -⟩ <;> simp [ht, hc]
  | text s => simp [element]

/-- The text of an element becomes the current piece. -/
theorem pieces?_element (a : Arg) (rest : List Char) :
    pieces? false false [] (element a ++ rest) = pieces? false (piece a).quoted (piece a).text.reverse rest := by
  by_cases ha : a.isText = true
  · cases a with
    | text s =>
      have hq : pieces? false false [] (element (.text s) ++ rest) =
          pieces? true true [] (s.toList.flatMap escaped ++ ('\'' :: rest)) := by
        rw [element, List.cons_append, List.cons_append, pieces?_quote, List.append_assoc]
        rfl
      rw [hq, pieces?_flatMap_escaped, pieces?_quote, List.append_nil]
      rfl
    | bool b => cases ha
    | int n => cases ha
    | float x => cases ha
  · have hp : piece a = ⟨element a, false⟩ := by
      cases a with
      | text s => exact absurd rfl ha
      | bool b => rfl
      | int n => rfl
      | float x => rfl
    rw [pieces?_bare (bare_element (by simpa using ha)), hp, List.append_nil]

theorem piece_text_eq_nil_iff (a : Arg) : (piece a).text = [] ↔ a = .text "" := by
  cases a with
  | text s => simp [piece]
  | bool b => exact iff_of_false (element_ne_nil (.bool b)) nofun
  | int n => exact iff_of_false (element_ne_nil (.int n)) nofun
  | float x => exact iff_of_false (element_ne_nil (.float x)) nofun

theorem pieces?_elements (args : List Arg) : pieces? false false [] (elements args) = some (args.map piece) := by
  induction args with
  | nil => rfl
  | cons a rest ih =>
    cases rest with
    | nil =>
      rw [elements, pieces?_element]
      by_cases ha : a = .text ""
      · subst ha
        rfl
      · have hne : (piece a).text ≠ [] := mt (piece_text_eq_nil_iff a).mp ha
        simp [ha, pieces?, hne]
    | cons b rest =>
      have he : elements (a :: b :: rest) = element a ++ ',' :: elements (b :: rest) := rfl
      rw [he, pieces?_element, pieces?_comma, ih]
      simp

theorem inside?_brackets (cs : List Char) : inside? ('[' :: cs ++ [']']) = some cs := by
  simp [inside?]

theorem trim_brackets (cs : List Char) : Text.trim ('[' :: cs ++ [']']) = '[' :: cs ++ [']'] := by
  refine Text.trim_of_ends ?_ ?_
  · intro c hc
    cases hc
    decide
  · intro c hc
    rw [List.getLast?_append, List.getLast?_singleton] at hc
    cases hc
    decide

/-- A rendered list is read as its pieces, in both ways of reading. -/
theorem parse_render (scalars : Scalars) (args : List Arg) :
    parse scalars (render args) = .ok (args.map fun a => (piece a).toArg scalars) := by
  unfold parse
  rw [render, String.toList_ofList, trim_brackets]
  simp only [inside?_brackets, pieces?_elements, List.map_map]
  rfl

theorem toArg_inferred_piece {a : Arg} (h : a.isFinite = true) : (piece a).toArg .inferred = a := by
  cases a with
  | text s => simp [piece, Piece.toArg]
  | bool b => cases b <;> decide
  | int n => simpa [piece, Piece.toArg] using Arg.infer_integerText n
  | float x => simpa [piece, Piece.toArg] using Arg.infer_text h

theorem parse_inferred_render {args : List Arg} (h : ∀ a ∈ args, a.isFinite = true) :
    parse .inferred (render args) = .ok args := by
  have hmap : args.map (fun a => (piece a).toArg .inferred) = args.map id :=
    List.map_congr_left fun a ha => toArg_inferred_piece (h a ha)
  rw [parse_render, hmap, List.map_id]

/-- A text is itself, and any other argument the text that it is written as, with numbers in the exact form. -/
def asText : Arg → Arg
  | .text s => .text s
  | .float x => .text (String.ofList (x.text .exact))
  | a => .text a.toText

/-- An infinity and an undefined number are no texts, so they do not come back. -/
theorem isFinite_of_asText_eq {a : Arg} (h : asText a = a) : a.isFinite = true := by
  cases a with
  | float x => cases h
  | bool b => rfl
  | int n => rfl
  | text s => rfl

theorem toArg_verbatim_piece (a : Arg) : (piece a).toArg .verbatim = asText a := by
  cases a <;> simp [piece, Piece.toArg, asText, element]

theorem toArg_inferred_piece_of_not_finite {a : Arg} (h : a.isFinite = false) :
    (piece a).toArg .inferred = asText a := by
  cases a with
  | float x =>
    cases x with
    | nan => decide +kernel
    | infinite negative => cases negative <;> decide +kernel
    | finite negative n fits => cases h
  | bool b => cases h
  | int n => cases h
  | text s => cases h

theorem exists_texts_of_parse_verbatim {raw : String} {args : List Arg} (h : parse .verbatim raw = .ok args) :
    ∃ texts : List String, args = texts.map .text := by
  unfold parse at h
  dsimp only at h
  split at h
  · split at h
    · rename_i ps _
      cases h
      exact ⟨ps.map fun p => String.ofList p.text, by rw [List.map_map]; rfl⟩
    · cases h
  · split at h
    · cases h
    · cases h
      exact ⟨[raw], rfl⟩

theorem parse_verbatim_render_texts (texts : List String) :
    parse .verbatim (render (texts.map .text)) = .ok (texts.map .text) := by
  rw [parse_render, List.map_map]
  congr 1
  refine List.map_congr_left fun s _ => ?_
  exact toArg_verbatim_piece (.text s)

/-- Reading without inference undoes rendering, but for the kinds: each argument comes back as a text. Lists of texts
come back as they are, whatever the texts hold, and so does all that reading without inference gives. -/
theorem parse_verbatim_render :
    (∀ args, parse .verbatim (render args) = .ok (args.map asText)) ∧
    (∀ texts : List String, parse .verbatim (render (texts.map .text)) = .ok (texts.map .text)) ∧
    ∀ raw args, parse .verbatim raw = .ok args → parse .verbatim (render args) = .ok args := by
  refine ⟨fun args => ?_, parse_verbatim_render_texts, fun raw args h => ?_⟩
  · rw [parse_render]
    exact congrArg _ (List.map_congr_left fun a _ => toArg_verbatim_piece a)
  · obtain ⟨texts, rfl⟩ := exists_texts_of_parse_verbatim h
    exact parse_verbatim_render_texts texts

/-- Reading with inference undoes rendering, kinds included, of exactly the lists without an infinity or an undefined
number. -/
theorem parse_inferred_render_eq_iff (args : List Arg) :
    parse .inferred (render args) = .ok args ↔ ∀ a ∈ args, a.isFinite = true := by
  refine ⟨fun h a ha => ?_, parse_inferred_render⟩
  rw [parse_render, Except.ok.injEq] at h
  have hpiece : (piece a).toArg .inferred = a :=
    List.map_inj_left.mp (h.trans (List.map_id args).symm) a ha
  by_contra hnot
  rw [Bool.not_eq_true] at hnot
  rw [toArg_inferred_piece_of_not_finite hnot] at hpiece
  exact Bool.false_ne_true (hnot.symm.trans (isFinite_of_asText_eq hpiece))

-- An empty text at the end takes a comma of its own, since a last piece without text is dropped.
example : render [.text "", .text "it's", .int 1, .text "1", .text ""] = "['','it\\'s',1,'1','',]" := by decide +kernel

end Bracket
end QueryGate
