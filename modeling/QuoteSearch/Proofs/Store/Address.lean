import QuoteSearch.Proofs.Text.Percent
import QuoteSearch.Settings.Basic
import QuoteSearch.Store.Address
import Mathlib.Data.List.Flatten
import Mathlib.Data.List.TakeWhile

/-! # Paths in database addresses

The path of a file is put into the address of a database as it is, and read from it as something that may be
encoded, ends at a question mark and follows a scheme. It is read as it was exactly if it holds none of that.
-/

namespace QuoteSearch

open Text

namespace StoreAddress

variable {path beginning text : List Char} {a a' : StoreAddress}

/-- Nothing in the path is taken for a scheme, for parameters or for an encoded byte. -/
structure IsLiteral (path : List Char) : Prop where
  noScheme : ¬ "sqlite:".toList <+: path
  noParameters : '?' ∉ path
  nothingEncoded : NothingEncoded path

/-! ## Dropping the scheme -/

theorem dropRepeated_of_not_start (h : ¬ beginning <+: text) (fuel : Nat) :
    dropRepeated beginning fuel text = text := by
  cases fuel with
  | zero => rfl
  | succ fuel => rw [dropRepeated, if_neg (mt List.isPrefixOf_iff_prefix.mp h)]

theorem dropRepeated_append (fuel : Nat) (text : List Char) :
    dropRepeated beginning (fuel + 1) (beginning ++ text) = dropRepeated beginning fuel text := by
  rw [dropRepeated, if_pos (List.isPrefixOf_iff_prefix.mpr (List.prefix_append _ _)), List.drop_left]

theorem dropRepeated_isSuffix (beginning : List Char) (fuel : Nat) (text : List Char) :
    dropRepeated beginning fuel text <:+ text := by
  induction fuel generalizing text with
  | zero => exact List.suffix_refl text
  | succ fuel ih =>
    rw [dropRepeated]
    split
    · exact (ih _).trans (List.drop_suffix _ _)
    · exact List.suffix_refl text

theorem prefix_append_cons_iff {c : Char} (h : c ∉ beginning) (text rest : List Char) :
    beginning <+: text ++ c :: rest ↔ beginning <+: text := by
  refine ⟨fun hPrefix => ?_, fun hPrefix => hPrefix.trans (List.prefix_append _ _)⟩
  rcases List.prefix_or_prefix_of_prefix hPrefix (List.prefix_append text (c :: rest)) with hShort | ⟨tail, rfl⟩
  · exact hShort
  · cases tail with
    | nil => rw [List.append_nil]
    | cons d tail =>
      obtain ⟨rfl, -⟩ := List.cons_prefix_cons.mp ((List.prefix_append_right_inj text).mp hPrefix)
      exact absurd (List.mem_append_right text List.mem_cons_self) h

/-- What is dropped does not reach behind a character that it does not hold. -/
theorem dropRepeated_append_cons {c : Char} (h : c ∉ beginning) (fuel : Nat) (text rest : List Char) :
    dropRepeated beginning fuel (text ++ c :: rest) = dropRepeated beginning fuel text ++ c :: rest := by
  induction fuel generalizing text with
  | zero => rfl
  | succ fuel ih =>
    rw [dropRepeated, dropRepeated]
    simp only [List.isPrefixOf_iff_prefix, prefix_append_cons_iff h]
    split
    · rename_i hHere
      rw [List.drop_append_of_le_length hHere.length_le, ih]
    · rfl

/-- The path with the schemes that it begins with itself taken off. -/
def withoutSchemes (path : List Char) : List Char := dropRepeated "sqlite:".toList (path.length + 15) path

theorem withoutSchemes_eq_self_iff : withoutSchemes path = path ↔ ¬ "sqlite:".toList <+: path := by
  constructor
  · rintro hSame ⟨rest, rfl⟩
    rw [withoutSchemes, dropRepeated_append] at hSame
    have hLength := (dropRepeated_isSuffix "sqlite:".toList (("sqlite:".toList ++ rest).length + 14) rest).length_le
    rw [hSame, List.length_append] at hLength
    have hScheme : "sqlite:".toList.length = 7 := by rfl
    omega
  · intro h
    exact dropRepeated_of_not_start h _

def addressOf (path : List Char) : String := "sqlite:" ++ String.ofList path ++ "?mode=rwc"

theorem dropScheme_addressOf (hHead : path.head? ≠ some '/') :
    dropScheme (addressOf path).toList = withoutSchemes path ++ '?' :: "mode=rwc".toList := by
  have hPath : (String.ofList path).toList = path := String.toList_ofList
  have hChars : (addressOf path).toList = "sqlite:".toList ++ (path ++ '?' :: "mode=rwc".toList) := by
    rw [addressOf, String.toList_append, String.toList_append, hPath, List.append_assoc]
    rfl
  have hHost : ¬ "sqlite://".toList <+: "sqlite:".toList ++ (path ++ '?' :: "mode=rwc".toList) := by
    intro h
    have hSlashes : ['/', '/'] <+: path ++ '?' :: "mode=rwc".toList :=
      (List.prefix_append_right_inj "sqlite:".toList).mp h
    cases path with
    | nil => exact absurd (List.cons_prefix_cons.mp hSlashes).1 (by decide)
    | cons c path =>
      obtain ⟨rfl, -⟩ := List.cons_prefix_cons.mp hSlashes
      exact hHead rfl
  have hLength : ("sqlite:".toList ++ (path ++ '?' :: "mode=rwc".toList)).length = path.length + 15 + 1 := by
    rw [List.length_append, List.length_append]
    change 7 + (path.length + 9) = _
    omega
  rw [hChars, dropScheme]
  simp only [dropRepeated_of_not_start hHost, hLength]
  rw [dropRepeated_append, dropRepeated_append_cons (by decide), withoutSchemes]

theorem takeWhile_append_cons (separator : Char) (front back : List Char) :
    (front ++ separator :: back).takeWhile (· != separator) = front.takeWhile (· != separator) := by
  induction front with
  | nil => simp
  | cons c front ih => rw [List.cons_append, List.takeWhile_cons, List.takeWhile_cons, ih]

theorem cutAt_fst (separator : Char) (text : List Char) :
    (cutAt separator text).1 = text.takeWhile (· != separator) := by
  rw [cutAt]
  split <;> rfl

theorem cutAt_of_not_mem {separator : Char} {front : List Char} (h : separator ∉ front) (back : List Char) :
    cutAt separator (front ++ separator :: back) = (front, some back) := by
  have hFront : front.takeWhile (· != separator) = front :=
    List.takeWhile_eq_self_iff.mpr fun c hc => by simpa using ne_of_mem_of_not_mem hc h
  rw [cutAt, takeWhile_append_cons, hFront, List.drop_left]

/-! ## Reading the address -/

theorem withParameter_place {name value : String} (h : a.withParameter name value = .ok a') :
    a'.place = .memory ∨ a'.place = a.place := by
  rw [withParameter] at h
  split_ifs at h <;> cases h <;> simp

theorem withParameters_place {parameters : List (String × String)} (h : a.withParameters parameters = .ok a') :
    a'.place = .memory ∨ a'.place = a.place := by
  induction parameters generalizing a with
  | nil =>
    obtain rfl := Except.ok.inj h
    exact .inr rfl
  | cons parameter rest ih =>
    obtain ⟨middle, hFirst, hRest⟩ := exists_of_bind_eq_ok h
    rcases ih hRest with hPlace | hPlace
    · exact .inl hPlace
    · rw [hPlace]
      exact withParameter_place hFirst

theorem parse_addressOf (hHead : path.head? ≠ some '/') (hMemory : path ≠ memoryName.toList) (h : IsLiteral path) :
    parse (addressOf path) = .ok ⟨.file (String.ofList path), false, none⟩ := by
  have hPlace : placeOf path = .ok (.file (String.ofList path)) := by
    rw [placeOf, if_neg hMemory, percentDecodeText_eq_self h.nothingEncoded]
  have hPairs : formPairs "mode=rwc".toList = [("mode", "rwc")] := by decide +kernel
  rw [parse, dropScheme_addressOf hHead, withoutSchemes_eq_self_iff.mpr h.noScheme, cutAt_of_not_mem h.noParameters]
  refine bind_eq_of_ok hPlace ?_
  rw [Option.getD_some, hPairs]
  rfl

/-- The part of a path that is read as the place of the database. -/
def readPart (path : List Char) : List Char := (withoutSchemes path).takeWhile (· != '?')

theorem readPart_sublist (path : List Char) : (readPart path).Sublist path :=
  (List.takeWhile_sublist _).trans (dropRepeated_isSuffix _ _ _).sublist

theorem place_of_parse (hHead : path.head? ≠ some '/') (h : parse (addressOf path) = .ok a) : a.place = .memory ∨
    ∃ decoded, percentDecodeText (readPart path) = .ok decoded ∧ a.place = .file (String.ofList decoded) := by
  have hCut := cutAt_fst '?' (dropScheme (addressOf path).toList)
  rw [parse] at h
  cases hParts : cutAt '?' (dropScheme (addressOf path).toList) with
  | mk left parameters =>
    rw [hParts] at h hCut
    rw [dropScheme_addressOf hHead, takeWhile_append_cons, ← readPart] at hCut
    obtain rfl : left = readPart path := hCut
    obtain ⟨place, hRead, hParameters⟩ := exists_of_bind_eq_ok h
    rcases withParameters_place hParameters with hOther | hSame
    · exact .inl hOther
    · rw [hSame]
      rw [placeOf] at hRead
      split_ifs at hRead
      · exact .inl (Except.ok.inj hRead).symm
      · split at hRead
        · rename_i decoded hDecoded
          exact .inr ⟨decoded, hDecoded, (Except.ok.inj hRead).symm⟩
        · cases hRead

theorem isLiteral_of_parse (hHead : path.head? ≠ some '/') (h : parse (addressOf path) = .ok a)
    (hPlace : a.place = .file (String.ofList path)) : IsLiteral path := by
  have hDecode : percentDecodeText (readPart path) = .ok path := by
    obtain hMemory | ⟨decoded, hDecoded, hFile⟩ := place_of_parse hHead h
    · cases hPlace.symm.trans hMemory
    · obtain rfl : path = decoded := String.ofList_inj.mp (StorePlace.file.inj (hPlace.symm.trans hFile))
      exact hDecoded
  have hSuffix : withoutSchemes path <:+ path := dropRepeated_isSuffix _ _ _
  have hTake : readPart path <+: withoutSchemes path := List.takeWhile_prefix _
  obtain ⟨hLength, hEncoded⟩ := length_bytesOf_le_of_percentDecodeText hDecode
  have hBytes : bytesOf (readPart path) = bytesOf path :=
    ((readPart_sublist path).flatMap _).eq_of_length_le hLength
  have hRead : readPart path = path :=
    Except.ok.inj ((decode_bytesOf (readPart path)).symm.trans (hBytes ▸ decode_bytesOf path))
  have hSchemes : withoutSchemes path = path :=
    hSuffix.eq_of_length_le (Nat.le_trans (Nat.le_of_eq (congrArg List.length hRead).symm) hTake.length_le)
  refine ⟨withoutSchemes_eq_self_iff.mp hSchemes, fun hMem => ?_, hRead ▸ hEncoded (by rw [hBytes])⟩
  rw [← hRead] at hMem
  exact absurd (List.mem_takeWhile_imp hMem) (by simp)

end StoreAddress

end QuoteSearch
