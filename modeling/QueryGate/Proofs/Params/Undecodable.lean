import QueryGate.Proofs.Params.QueryString

/-! Query strings in whatever state they come. Each side of each pair is decoded by itself; one that cannot be decoded is
kept, but its plus signs are not. -/
namespace QueryGate
namespace QueryString

/-- The bytes that a text stands for. A percent sign and two hexadecimal digits give one byte, and any other character
gives its own. -/
inductive Unescapes : List Char → List UInt8 → Prop
  | nil : Unescapes [] []
  | escape {high low : Char} {b : UInt8} {cs : List Char} {bytes : List UInt8} (hb : hexByte? high low = some b)
    (h : Unescapes cs bytes) : Unescapes ('%' :: high :: low :: cs) (b :: bytes)
  | plain {c : Char} {cs : List Char} {bytes : List UInt8}
    (hc : c = '%' → ∀ high low rest, cs = high :: low :: rest → hexByte? high low = none) (h : Unescapes cs bytes) :
    Unescapes (c :: cs) (Text.encodeChar c ++ bytes)

/-- The name and the value of a part: what stands in front of its first equals sign, and what stands behind it. -/
inductive Cut : List Char → List Char × List Char → Prop
  | equals {key value : List Char} (h : '=' ∉ key) : Cut (key ++ '=' :: value) (key, value)
  | bare {key : List Char} (h : '=' ∉ key) : Cut key (key, [])

/-- Whether the bytes of one side of a pair, its plus signs read as spaces, are those of no text. -/
def Undecodable (cs : List Char) : Prop := ∀ s : String, ¬Unescapes (cs.map plusToSpace) s.toUTF8.data.toList

variable {cs : List Char} {bytes : List UInt8}

theorem percentBytes_singleton (c : Char) : percentBytes [c] = Text.encodeChar c := by
  by_cases hpercent : c = '%'
  · subst hpercent
    rfl
  · rw [percentBytes_cons_of_ne hpercent, percentBytes, List.append_nil]

/-- A percent sign without two hexadecimal digits behind it stands for itself. -/
theorem percentBytes_percent (hcs : ∀ high low rest, cs = high :: low :: rest → hexByte? high low = none) :
    percentBytes ('%' :: cs) = Text.encodeChar '%' ++ percentBytes cs := by
  match cs with
  | [] => rfl
  | [d] =>
    rw [percentBytes_singleton]
    rfl
  | high :: low :: rest =>
    have hnone := hcs high low rest rfl
    rw [percentBytes.eq_def]
    simp only [if_true, hnone]

theorem percentBytes_of_unescapes (h : Unescapes cs bytes) : percentBytes cs = bytes := by
  induction h with
  | nil => rfl
  | escape hb h ih =>
    rw [percentBytes.eq_def]
    simp only [if_true, hb, ih]
  | @plain c cs bytes hc h ih =>
    by_cases hpercent : c = '%'
    · subst hpercent
      rw [percentBytes_percent (hc rfl), ih]
    · rw [percentBytes_cons_of_ne hpercent, ih]

theorem unescapes_singleton (c : Char) : Unescapes [c] (Text.encodeChar c) := by
  have h : Unescapes [c] (Text.encodeChar c ++ []) := .plain nofun .nil
  rwa [List.append_nil] at h

theorem unescapes_percentBytes (cs : List Char) : Unescapes cs (percentBytes cs) := by
  fun_induction percentBytes cs with
  | case1 => exact .nil
  | case2 high low rest b hb ih => exact .escape hb ih
  | case3 high low rest hb ih =>
    refine .plain (fun _ high' low' rest' hcs => ?_) ih
    cases hcs
    exact hb
  | case4 d => exact .plain nofun (unescapes_singleton d)
  | case5 => exact unescapes_singleton '%'
  | case6 c rest hpercent ih => exact .plain (fun h => absurd h hpercent) ih

/-- The bytes of a text are what they are read as. -/
theorem unescapes_iff : Unescapes cs bytes ↔ percentBytes cs = bytes :=
  ⟨percentBytes_of_unescapes, fun h => h ▸ unescapes_percentBytes cs⟩

theorem undecodable_iff : Undecodable cs ↔ Text.decodeUtf8? (percentBytes (cs.map plusToSpace)) = none := by
  unfold Undecodable
  simp only [unescapes_iff, Option.eq_none_iff_forall_ne_some, ne_eq, Text.decodeUtf8?_eq_some_iff]
  constructor
  · intro h text htext
    refine h (String.ofList text) ?_
    rw [← Text.encodeUtf8_toList, String.toList_ofList, htext]
  · intro h s hs
    rw [← Text.encodeUtf8_toList] at hs
    exact h s.toList hs.symm

theorem decodeComponent_of_unescapes {s : String} (h : Unescapes (cs.map plusToSpace) s.toUTF8.data.toList) :
    decodeComponent cs = s.toList :=
  decodeComponent_of_percentBytes (percentBytes_of_unescapes h)

theorem decodeComponent_of_undecodable (h : Undecodable cs) : decodeComponent cs = cs.map plusToSpace := by
  unfold decodeComponent
  dsimp only
  rw [undecodable_iff.mp h, Option.getD_none]

theorem map_plusToSpace_eq_self_iff : cs.map plusToSpace = cs ↔ '+' ∉ cs := by
  have hsame : cs.map plusToSpace = cs.map id ↔ ∀ c ∈ cs, plusToSpace c = id c := List.map_inj_left
  rw [List.map_id] at hsame
  rw [hsame]
  constructor
  · intro h hplus
    cases h '+' hplus
  · intro h c hc
    exact plusToSpace_of_ne fun e => h (e ▸ hc)

theorem cut_splitFirst (cs : List Char) : Cut cs (splitFirst '=' cs) := by
  have hkey : '=' ∉ cs.takeWhile (· ≠ '=') := fun hmem => by
    have h := List.all_eq_true.mp List.all_takeWhile _ hmem
    simp at h
  have hcs := List.takeWhile_append_dropWhile (p := (· ≠ '=')) (l := cs)
  unfold splitFirst
  cases hrest : cs.dropWhile (· ≠ '=') with
  | nil =>
    rw [hrest, List.append_nil] at hcs
    rw [hcs] at hkey ⊢
    exact .bare hkey
  | cons c value =>
    have hc : c = '=' := by
      have h := List.head?_dropWhile_not (· ≠ '=') cs
      rw [hrest] at h
      simpa using h
    subst hc
    have hcut : Cut (cs.takeWhile (· ≠ '=') ++ '=' :: value) (cs.takeWhile (· ≠ '='), value) := .equals hkey
    rwa [← hrest, hcs] at hcut

end QueryString

open QueryString in
/-- What a query string gives, whatever it holds. Each side of each pair is decoded by itself: it becomes the text whose
bytes it gives, and if they are those of no text, it is kept with its plus signs replaced. That is as it came where there
is no plus sign in it, and nowhere else. The pairs stand between ampersands, each of them cut at its first equals sign,
and of those with one name the last one is stored. -/
theorem RawParams.ofQuery_of_components (query : String) :
    (∀ cs (s : String), Unescapes (cs.map plusToSpace) s.toUTF8.data.toList → decodeComponent cs = s.toList) ∧
    (∀ cs, Undecodable cs → decodeComponent cs = cs.map plusToSpace ∧ (decodeComponent cs = cs ↔ '+' ∉ cs)) ∧
    let parts := ((dropMark query.toList).splitOn '&').filter fun part => !part.isEmpty
    let stored := fun cs => String.ofList (decodeComponent cs)
    ∃ components, List.Forall₂ Cut parts components ∧
      ofQuery query = ofPairs (components.map fun c => (stored c.1, stored c.2)) ∧
      ∀ key, (ofQuery query).get? key =
        ((components.map fun c => (stored c.1, stored c.2)).reverse.lookup key).map .text := by
  refine ⟨fun cs s => decodeComponent_of_unescapes, fun cs h => ?_, ?_⟩
  · rw [decodeComponent_of_undecodable h]
    exact ⟨rfl, map_plusToSpace_eq_self_iff⟩
  · intro parts stored
    have hquery : ofQuery query = ofPairs ((parts.map (splitFirst '=')).map fun c => (stored c.1, stored c.2)) := by
      rw [ofQuery, pairs, splitAll_eq_splitOn, List.map_map]
      rfl
    refine ⟨parts.map (splitFirst '='), ?_, hquery, fun key => ?_⟩
    · exact List.forall₂_map_right_iff.mpr (List.forall₂_same.mpr fun part _ => cut_splitFirst part)
    · rw [hquery, get?_ofPairs]

open QueryString in
/-- A byte that begins no character, and a plus sign behind it. -/
theorem RawParams.ofQuery_of_byte_and_plus :
    Cut "a=%FF+x".toList ("a".toList, "%FF+x".toList) ∧ Undecodable "%FF+x".toList ∧
      (ofQuery "a=%FF+x").get? "a" = some (.text "%FF x") ∧ (ofQuery "a=%FF+x").get? "a" ≠ some (.text "%FF+x") := by
  have hcut := cut_splitFirst "a=%FF+x".toList
  have hget : (ofQuery "a=%FF+x").get? "a" = some (.text "%FF x") := by decide +kernel
  refine ⟨hcut, undecodable_iff.mpr (by decide +kernel), hget, ?_⟩
  rw [hget]
  decide

end QueryGate
