import QuoteSearch.Json.Decode
import QuoteSearch.Proofs.Json.Token
import Mathlib.Data.List.TakeWhile

/-! # JSON texts

The texts of a document: gaps may stand around its parts, strings are quoted and nothing is left out.
Each of them is read as the document, whatever comes behind that could not belong to it, so a whole text
is decoded as its document.
-/

namespace QuoteSearch.Json.Document

open Text NumberText

def IsGap (gap : List Char) : Prop := ∀ c ∈ gap, isGap c = true

mutual

inductive IsText : Document → List Char → Prop
  | null : IsText .null "null".toList
  | bool (b : Bool) : IsText (.bool b) (if b then "true" else "false").toList
  | number {n : NumberText} : n.IsWritten → IsText (.number n.token) n.chars
  | string {s spelled : List Char} : IsSpelled s spelled →
    IsText (.string (.ok (String.ofList s))) ('"' :: (spelled ++ ['"']))
  | emptyList {gap : List Char} : IsGap gap → IsText (.list [] none) ('[' :: (gap ++ [']']))
  | list {items : List Document} {text : List Char} : AreItems items text →
    IsText (.list items none) ('[' :: (text ++ [']']))
  | emptyRecord {gap : List Char} : IsGap gap →
    IsText (.record [] none) (leftBrace :: (gap ++ [rightBrace]))
  | record {members : List (Token String × Document)} {text : List Char} : AreMembers members text →
    IsText (.record members none) (leftBrace :: (text ++ [rightBrace]))

/-- A text with gaps around it. -/
inductive IsItem : Document → List Char → Prop
  | spaced {doc : Document} {before text after : List Char} : IsGap before → IsText doc text → IsGap after →
    IsItem doc (before ++ (text ++ after))

inductive AreItems : List Document → List Char → Prop
  | last {doc : Document} {text : List Char} : IsItem doc text → AreItems [doc] text
  | more {doc : Document} {docs : List Document} {text texts : List Char} : IsItem doc text →
    AreItems docs texts → AreItems (doc :: docs) (text ++ ',' :: texts)

inductive IsMember : Token String × Document → List Char → Prop
  | spaced {key spelled before behind text : List Char} {doc : Document} : IsSpelled key spelled → IsGap before →
    IsGap behind → IsItem doc text →
    IsMember (.ok (String.ofList key), doc) (before ++ '"' :: (spelled ++ '"' :: (behind ++ ':' :: text)))

inductive AreMembers : List (Token String × Document) → List Char → Prop
  | last {member : Token String × Document} {text : List Char} : IsMember member text →
    AreMembers [member] text
  | more {member : Token String × Document} {members : List (Token String × Document)} {text texts : List Char} :
    IsMember member text → AreMembers members texts → AreMembers (member :: members) (text ++ ',' :: texts)

end

/-! ## Gaps -/

variable {gap text rest : List Char} {fuel : Nat}

theorem skipGaps_append (h : IsGap gap) (text : List Char) : skipGaps (gap ++ text) = skipGaps text :=
  List.dropWhile_append_of_pos h

theorem skipGaps_cons {c : Char} (h : isGap c = false) (text : List Char) : skipGaps (c :: text) = c :: text :=
  List.dropWhile_cons_of_neg (by simp [h])

theorem skipGaps_append_cons (h : IsGap gap) {c : Char} (hc : isGap c = false) (text : List Char) :
    skipGaps (gap ++ c :: text) = c :: text := by
  rw [skipGaps_append h, skipGaps_cons hc]

theorem readValue_append (h : IsGap gap) (fuel : Nat) (text : List Char) :
    readValue fuel (gap ++ text) = readValue fuel text := by
  cases fuel with
  | zero => rfl
  | succ fuel => rw [readValue, readValue, skipGaps_append h]

theorem readValue_skipGaps (fuel : Nat) (text : List Char) :
    readValue fuel (skipGaps text) = readValue fuel text := by
  have hGap : IsGap (text.takeWhile isGap) := fun c hc => List.mem_takeWhile_imp hc
  conv_rhs => rw [← List.takeWhile_append_dropWhile (p := isGap) (l := text), readValue_append hGap]
  rfl

theorem readItems_skipGaps (fuel : Nat) (text : List Char) :
    readItems fuel (skipGaps text) = readItems fuel text := by
  cases fuel with
  | zero => rfl
  | succ fuel => rw [readItems, readItems, readValue_skipGaps]

/-! ## Values without parts -/

theorem ne_of_isDigit {c d : Char} (hc : isDigit c = true) (hd : isDigit d = false) : c ≠ d := by
  rintro rfl
  rw [hc] at hd
  cases hd

theorem isGap_of_isDigit {c : Char} (h : isDigit c = true) : isGap c = false := by
  simp only [isGap, Bool.or_eq_false_iff, beq_eq_false_iff_ne]
  exact ⟨⟨⟨ne_of_isDigit h (by decide), ne_of_isDigit h (by decide)⟩, ne_of_isDigit h (by decide)⟩,
    ne_of_isDigit h (by decide)⟩

theorem readWord_append (value : Document) (word rest : List Char) :
    readWord value word (word ++ rest) = (value, some rest) := by
  induction word with
  | nil => cases rest <;> rfl
  | cons w word ih => rw [List.cons_append, readWord, if_pos rfl, ih]

theorem readValue_digit {c : Char} (h : isDigit c = true) (fuel : Nat) (text : List Char) :
    readValue (fuel + 1) (c :: text) = readNumber false (c :: text) := by
  rw [readValue, skipGaps_cons (isGap_of_isDigit h)]
  split
  case h_1 hText => cases hText
  case h_8 hText =>
    obtain ⟨rfl, rfl⟩ := List.cons.inj hText
    rw [if_pos h]
  all_goals
    rename_i hText
    exact absurd (List.cons.inj hText).1 (ne_of_isDigit h (by decide))

theorem exists_chars_eq_cons {n : NumberText} (h : n.IsWritten) :
    ∃ c tail, n.chars = c :: tail ∧ (c = '-' ∨ isDigit c = true) := by
  obtain ⟨d, digits, hBefore⟩ := List.exists_cons_of_ne_nil h.before.1
  have hDigit : isDigit d = true := h.before.2 d (by rw [hBefore]; exact List.mem_cons_self)
  cases hSign : n.isNegative with
  | true =>
    rw [chars, signChars, hSign]
    exact ⟨_, _, rfl, .inl rfl⟩
  | false =>
    rw [chars, signChars, hSign, hBefore]
    exact ⟨_, _, rfl, .inr hDigit⟩

theorem readValue_number {n : NumberText} (h : n.IsWritten) (hRest : EndsBefore rest) (fuel : Nat) :
    readValue (fuel + 1) (n.chars ++ rest) = (.number n.token, some rest) := by
  have hNumber := readNumber_eq h hRest
  rw [chars, List.append_assoc, List.append_assoc, List.append_assoc, signChars]
  cases hSign : n.isNegative with
  | true =>
    rw [hSign] at hNumber
    rw [if_pos rfl, List.singleton_append, readValue, skipGaps_cons (by decide)]
    exact hNumber
  | false =>
    obtain ⟨d, digits, hBefore⟩ := List.exists_cons_of_ne_nil h.before.1
    have hDigit : isDigit d = true := h.before.2 d (by rw [hBefore]; exact List.mem_cons_self)
    rw [hSign, hBefore] at hNumber
    rw [if_neg Bool.false_ne_true, List.nil_append, hBefore, List.cons_append, readValue_digit hDigit]
    exact hNumber

theorem readValue_string {s spelled : List Char} (h : IsSpelled s spelled) (fuel : Nat) (rest : List Char) :
    readValue (fuel + 1) ('"' :: (spelled ++ '"' :: rest)) = (.string (.ok (String.ofList s)), some rest) := by
  rw [readValue, skipGaps_cons (by decide)]
  simp only [newScan, h.read, List.reverse_nil, List.nil_append]

theorem readValue_null (fuel : Nat) (rest : List Char) :
    readValue (fuel + 1) ("null".toList ++ rest) = (.null, some rest) := by
  change readValue (fuel + 1) ('n' :: ("ull".toList ++ rest)) = _
  rw [readValue, skipGaps_cons (by decide)]
  exact readWord_append .null "ull".toList rest

theorem readValue_bool (b : Bool) (fuel : Nat) (rest : List Char) :
    readValue (fuel + 1) ((if b then "true" else "false").toList ++ rest) = (.bool b, some rest) := by
  cases b with
  | true =>
    change readValue (fuel + 1) ('t' :: ("rue".toList ++ rest)) = _
    rw [readValue, skipGaps_cons (by decide)]
    exact readWord_append (.bool true) "rue".toList rest
  | false =>
    change readValue (fuel + 1) ('f' :: ("alse".toList ++ rest)) = _
    rw [readValue, skipGaps_cons (by decide)]
    exact readWord_append (.bool false) "alse".toList rest

/-! ## Steps of the reader -/

variable {doc : Document} {docs : List Document} {members : List (Token String × Document)}
  {after behind texts tail : List Char}

theorem readItems_last (hAfter : IsGap after) (hValue : readValue fuel text = (doc, some (after ++ ']' :: rest))) :
    readItems (fuel + 1) text = ([doc], none, some rest) := by
  rw [readItems, hValue]
  simp only [skipGaps_append_cons hAfter (c := ']') (by decide)]

theorem readItems_more (hAfter : IsGap after) (hValue : readValue fuel text = (doc, some (after ++ ',' :: texts)))
    (hNext : ∃ c tail, skipGaps texts = c :: tail ∧ c ≠ ']')
    (hItems : readItems fuel texts = (docs, none, some rest)) :
    readItems (fuel + 1) text = (doc :: docs, none, some rest) := by
  obtain ⟨c, tail, hSkip, hc⟩ := hNext
  rw [← readItems_skipGaps, hSkip] at hItems
  rw [readItems, hValue]
  simp only [skipGaps_append_cons hAfter (c := ',') (by decide), hSkip]
  split
  · rename_i hNil
    cases hNil
  · rename_i hClosed
    exact absurd (List.cons.inj hClosed).1 hc
  · rw [hItems]

theorem readValue_emptyList (hGap : IsGap gap) (fuel : Nat) (rest : List Char) :
    readValue (fuel + 2) ('[' :: (gap ++ ']' :: rest)) = (.list [] none, some rest) := by
  rw [readValue, skipGaps_cons (by decide)]
  change readFirstItem (fuel + 1) _ = _
  rw [readFirstItem, skipGaps_append_cons hGap (by decide)]
  rfl

theorem readValue_list (hFirst : ∃ c tail, skipGaps text = c :: tail ∧ c ≠ ']')
    (hItems : readItems fuel text = (docs, none, some rest)) :
    readValue (fuel + 2) ('[' :: text) = (.list docs none, some rest) := by
  obtain ⟨c, tail, hSkip, hc⟩ := hFirst
  rw [← readItems_skipGaps, hSkip] at hItems
  rw [readValue, skipGaps_cons (by decide)]
  change readFirstItem (fuel + 1) _ = _
  rw [readFirstItem, hSkip]
  split
  · rename_i hNil
    cases hNil
  · rename_i hClosed
    exact absurd (List.cons.inj hClosed).1 hc
  · rw [hItems]

theorem readValue_emptyRecord (hGap : IsGap gap) (fuel : Nat) (rest : List Char) :
    readValue (fuel + 2) (leftBrace :: (gap ++ rightBrace :: rest)) = (.record [] none, some rest) := by
  rw [readValue, skipGaps_cons (by decide)]
  change readFirstMember (fuel + 1) _ = _
  rw [readFirstMember, skipGaps_append_cons hGap (by decide)]
  rfl

theorem readValue_record (hFirst : skipGaps text = '"' :: tail)
    (hMembers : readMembers fuel tail = (members, none, some rest)) :
    readValue (fuel + 2) (leftBrace :: text) = (.record members none, some rest) := by
  rw [readValue, skipGaps_cons (by decide)]
  change readFirstMember (fuel + 1) _ = _
  rw [readFirstMember, hFirst]
  simp only [hMembers]

variable {key spelled : List Char}

theorem readMembers_last (hKey : IsSpelled key spelled) (hBehind : IsGap behind) (hAfter : IsGap after)
    (hValue : readValue fuel text = (doc, some (after ++ rightBrace :: rest))) :
    readMembers (fuel + 1) (spelled ++ '"' :: (behind ++ ':' :: text)) =
      ([(.ok (String.ofList key), doc)], none, some rest) := by
  rw [readMembers, newScan, hKey.read]
  simp only [skipGaps_append_cons hBehind (c := ':') (by decide), hValue,
    skipGaps_append_cons hAfter (c := rightBrace) (by decide)]
  rfl

theorem readMembers_more (hKey : IsSpelled key spelled) (hBehind : IsGap behind) (hAfter : IsGap after)
    (hValue : readValue fuel text = (doc, some (after ++ ',' :: texts)))
    (hNext : skipGaps texts = '"' :: tail) (hMembers : readMembers fuel tail = (members, none, some rest)) :
    readMembers (fuel + 1) (spelled ++ '"' :: (behind ++ ':' :: text)) =
      ((.ok (String.ofList key), doc) :: members, none, some rest) := by
  rw [readMembers, newScan, hKey.read]
  simp only [skipGaps_append_cons hBehind (c := ':') (by decide), hValue,
    skipGaps_append_cons hAfter (c := ',') (by decide), hNext, hMembers]
  rfl

/-! ## Reading a text -/

/-- What may stand behind an item. -/
def EndsItem (rest : List Char) : Prop := ∀ c ∈ rest.head?, c = ',' ∨ c = ']' ∨ c = rightBrace

theorem endsItem_cons {c : Char} (h : c = ',' ∨ c = ']' ∨ c = rightBrace) (rest : List Char) :
    EndsItem (c :: rest) := by
  intro d hd
  obtain rfl := Option.some.inj hd
  exact h

theorem endsBefore_append (hAfter : IsGap after) (hRest : EndsItem rest) : EndsBefore (after ++ rest) := by
  cases after with
  | nil =>
    intro c hc
    rcases hRest c hc with rfl | rfl | rfl <;> decide
  | cons d after =>
    intro c hc
    obtain rfl := Option.some.inj hc
    have hGap : isGap d = true := hAfter d List.mem_cons_self
    simp only [isGap, Bool.or_eq_true, beq_iff_eq] at hGap
    rcases hGap with ((rfl | rfl) | rfl) | rfl <;> decide

/-- A text of a document begins with a character that cannot end a list. -/
theorem IsText.head (h : IsText doc text) : ∃ c tail, text = c :: tail ∧ isGap c = false ∧ c ≠ ']' := by
  cases h with
  | null => exact ⟨_, _, rfl, by decide, by decide⟩
  | bool b => cases b <;> exact ⟨_, _, rfl, by decide, by decide⟩
  | number hn =>
    obtain ⟨c, tail, hChars, hc⟩ := exists_chars_eq_cons hn
    refine ⟨c, tail, hChars, ?_⟩
    rcases hc with rfl | hDigit
    · exact ⟨by decide, by decide⟩
    · exact ⟨isGap_of_isDigit hDigit, ne_of_isDigit hDigit (by decide)⟩
  | string hSpelled => exact ⟨_, _, rfl, by decide, by decide⟩
  | emptyList hGap => exact ⟨_, _, rfl, by decide, by decide⟩
  | list hItems => exact ⟨_, _, rfl, by decide, by decide⟩
  | emptyRecord hGap => exact ⟨_, _, rfl, by decide, by decide⟩
  | record hMembers => exact ⟨_, _, rfl, by decide, by decide⟩

theorem IsItem.head (h : IsItem doc text) (rest : List Char) :
    ∃ c tail, skipGaps (text ++ rest) = c :: tail ∧ c ≠ ']' := by
  obtain ⟨hBefore, hText, -⟩ := h
  obtain ⟨c, tail, rfl, hGap, hc⟩ := hText.head
  rw [List.append_assoc, skipGaps_append hBefore]
  exact ⟨c, _, skipGaps_cons hGap _, hc⟩

theorem AreItems.head (h : AreItems docs text) (rest : List Char) :
    ∃ c tail, skipGaps (text ++ rest) = c :: tail ∧ c ≠ ']' := by
  cases h with
  | last hItem => exact hItem.head rest
  | more hItem hItems =>
    rw [List.append_assoc]
    exact hItem.head _

/-- A member in front of a text: behind the opening quote of its key the key is read, and behind the colon
its value. -/
def LeadsToMember (fuel : Nat) (text : List Char) (member : Token String × Document) (rest : List Char) : Prop :=
  ∃ key spelled behind inner after, member.1 = .ok (String.ofList key) ∧ IsSpelled key spelled ∧ IsGap behind ∧
    IsGap after ∧ skipGaps text = '"' :: (spelled ++ '"' :: (behind ++ ':' :: inner)) ∧
    readValue fuel inner = (member.2, some (after ++ rest))

theorem readMembers_of_leadsToMember_last {member : Token String × Document}
    (h : LeadsToMember fuel text member (rightBrace :: rest)) :
    ∃ tail, skipGaps text = '"' :: tail ∧ readMembers (fuel + 1) tail = ([member], none, some rest) := by
  obtain ⟨key, spelled, behind, inner, after, hKey, hSpelled, hBehind, hAfter, hSkip, hValue⟩ := h
  refine ⟨_, hSkip, ?_⟩
  rw [readMembers_last hSpelled hBehind hAfter hValue, ← hKey]

theorem readMembers_of_leadsToMember_more {member : Token String × Document}
    (h : LeadsToMember fuel text member (',' :: texts)) (hNext : skipGaps texts = '"' :: tail)
    (hMembers : readMembers fuel tail = (members, none, some rest)) :
    ∃ tail, skipGaps text = '"' :: tail ∧ readMembers (fuel + 1) tail = (member :: members, none, some rest) := by
  obtain ⟨key, spelled, behind, inner, after, hKey, hSpelled, hBehind, hAfter, hSkip, hValue⟩ := h
  refine ⟨_, hSkip, ?_⟩
  rw [readMembers_more hSpelled hBehind hAfter hValue hNext hMembers, ← hKey]

-- The induction is on the derivation. A level of nesting takes two steps of the reader and writes two
-- brackets, so twice the length of a text is always fuel enough.
mutual

theorem IsText.read {doc : Document} {text : List Char} : IsText doc text →
    ∀ (fuel : Nat) (rest : List Char), 2 * text.length ≤ fuel → EndsBefore rest →
      readValue fuel (text ++ rest) = (doc, some rest)
  | .null, fuel + 1, rest, _, _ => readValue_null fuel rest
  | .bool true, fuel + 1, rest, _, _ => readValue_bool true fuel rest
  | .bool false, fuel + 1, rest, _, _ => readValue_bool false fuel rest
  | .number hn, fuel, rest, hFuel, hRest => by
    obtain ⟨c, tail, hChars, -⟩ := exists_chars_eq_cons hn
    rw [hChars, List.length_cons] at hFuel
    obtain ⟨fuel, rfl⟩ : ∃ f, fuel = f + 1 := ⟨fuel - 1, by omega⟩
    exact readValue_number hn hRest fuel
  | .string hSpelled, fuel + 1, rest, _, _ => by
    rw [List.cons_append, List.append_assoc]
    exact readValue_string hSpelled fuel rest
  | .emptyList hGap, fuel + 2, rest, _, _ => by
    rw [List.cons_append, List.append_assoc]
    exact readValue_emptyList hGap fuel rest
  | .list hItems, fuel + 2, rest, hFuel, hRest => by
    simp only [List.length_append, List.length_cons] at hFuel
    rw [List.cons_append, List.append_assoc]
    exact readValue_list (hItems.head _) (hItems.read fuel rest (by omega))
  | .emptyRecord hGap, fuel + 2, rest, _, _ => by
    rw [List.cons_append, List.append_assoc]
    exact readValue_emptyRecord hGap fuel rest
  | .record hMembers, fuel + 2, rest, hFuel, hRest => by
    simp only [List.length_append, List.length_cons] at hFuel
    obtain ⟨tail, hFirst, hTail⟩ := hMembers.read fuel rest (by omega)
    rw [List.cons_append, List.append_assoc]
    exact readValue_record hFirst hTail

theorem IsItem.read {doc : Document} {text : List Char} : IsItem doc text →
    ∀ (fuel : Nat) (rest : List Char), 2 * text.length ≤ fuel → EndsItem rest →
      ∃ after, IsGap after ∧ readValue fuel (text ++ rest) = (doc, some (after ++ rest))
  | .spaced hBefore hText hAfter, fuel, rest, hFuel, hRest => by
    rw [List.append_assoc, List.append_assoc, readValue_append hBefore]
    simp only [List.length_append] at hFuel
    exact ⟨_, hAfter, hText.read _ _ (by omega) (endsBefore_append hAfter hRest)⟩

theorem AreItems.read {docs : List Document} {text : List Char} : AreItems docs text →
    ∀ (fuel : Nat) (rest : List Char), 2 * text.length + 1 ≤ fuel →
      readItems fuel (text ++ ']' :: rest) = (docs, none, some rest)
  | .last hItem, fuel + 1, rest, hFuel => by
    have hEnd : EndsItem (']' :: rest) := endsItem_cons (by simp) rest
    obtain ⟨after, hAfter, hValue⟩ := hItem.read fuel _ (by omega) hEnd
    exact readItems_last hAfter hValue
  | @AreItems.more _ _ _ texts hItem hItems, fuel + 1, rest, hFuel => by
    simp only [List.length_append, List.length_cons] at hFuel
    have hEnd : EndsItem (',' :: (texts ++ ']' :: rest)) := endsItem_cons (by simp) _
    obtain ⟨after, hAfter, hValue⟩ := hItem.read fuel _ (by omega) hEnd
    rw [List.append_assoc, List.cons_append]
    exact readItems_more hAfter hValue (hItems.head _) (hItems.read fuel rest (by omega))

theorem IsMember.read {member : Token String × Document} {text : List Char} : IsMember member text →
    ∀ (fuel : Nat) (rest : List Char), 2 * text.length ≤ fuel → EndsItem rest →
      LeadsToMember fuel (text ++ rest) member rest
  | .spaced hKey hBefore hBehind hItem, fuel, rest, hFuel, hRest => by
    simp only [List.length_append, List.length_cons] at hFuel
    obtain ⟨after, hAfter, hValue⟩ := hItem.read fuel _ (by omega) hRest
    refine ⟨_, _, _, _, after, rfl, hKey, hBehind, hAfter, ?_, hValue⟩
    simp only [List.append_assoc, List.cons_append]
    rw [skipGaps_append hBefore, skipGaps_cons (by decide)]

theorem AreMembers.read {members : List (Token String × Document)} {text : List Char} : AreMembers members text →
    ∀ (fuel : Nat) (rest : List Char), 2 * text.length + 1 ≤ fuel →
      ∃ tail, skipGaps (text ++ rightBrace :: rest) = '"' :: tail ∧
        readMembers fuel tail = (members, none, some rest)
  | .last hMember, fuel + 1, rest, hFuel => by
    have hEnd : EndsItem (rightBrace :: rest) := endsItem_cons (by simp) rest
    exact readMembers_of_leadsToMember_last (hMember.read fuel _ (by omega) hEnd)
  | @AreMembers.more _ _ _ texts hMember hMembers, fuel + 1, rest, hFuel => by
    simp only [List.length_append, List.length_cons] at hFuel
    have hEnd : EndsItem (',' :: (texts ++ rightBrace :: rest)) := endsItem_cons (by simp) _
    obtain ⟨tail, hNext, hTail⟩ := hMembers.read fuel rest (by omega)
    rw [List.append_assoc, List.cons_append]
    exact readMembers_of_leadsToMember_more (hMember.read fuel _ (by omega) hEnd) hNext hTail

end

-- What is written has no fault in it, so whoever leaves it out meets none.
mutual

theorem IsText.skim {doc : Document} {text : List Char} : IsText doc text → doc.skim = none
  | .null | .bool _ | .number _ | .string _ => rfl
  | .emptyList _ | .emptyRecord _ => rfl
  | .list hItems => by rw [Document.skim, hItems.skim]; rfl
  | .record hMembers => by rw [Document.skim, hMembers.skim]; rfl

theorem IsItem.skim {doc : Document} {text : List Char} : IsItem doc text → doc.skim = none
  | .spaced _ hText _ => hText.skim

theorem AreItems.skim {docs : List Document} {text : List Char} : AreItems docs text → skimItems docs = none
  | .last hItem => by rw [skimItems, hItem.skim]; rfl
  | .more hItem hItems => by rw [skimItems, hItem.skim, hItems.skim]; rfl

theorem IsMember.skim {member : Token String × Document} {text : List Char} :
    IsMember member text → member.2.skim = none
  | .spaced _ _ _ hItem => hItem.skim

theorem AreMembers.skim {members : List (Token String × Document)} {text : List Char} :
    AreMembers members text → skimMembers members = none
  | .last hMember => by rw [skimMembers, hMember.skim]; rfl
  | .more hMember hMembers => by rw [skimMembers, hMember.skim, hMembers.skim]; rfl

end

theorem hasTrailing_gap (h : IsGap gap) : hasTrailing (some gap) = false := by
  have hSkip : skipGaps gap = [] := by
    rw [← List.append_nil gap, skipGaps_append h]
    rfl
  rw [hasTrailing, Option.any_some, hSkip]
  rfl

/-- A text of a document is decoded as the document. -/
theorem ofText_of_isItem {α : Type} {text : String} (h : IsItem doc text.toList) (decoder : Decoder α) :
    Decode.ofText decoder text = decoder doc := by
  obtain ⟨after, hAfter, hRead⟩ := h.read (2 * text.toList.length + 2) [] (by omega) fun c hc => (by cases hc)
  rw [List.append_nil, List.append_nil, ← Document.read] at hRead
  rw [Decode.ofText, hRead]
  change (decoder doc >>= fun a => if hasTrailing (some after) then throw _ else pure a) = _
  rw [hasTrailing_gap hAfter]
  cases decoder doc <;> rfl

end QuoteSearch.Json.Document
