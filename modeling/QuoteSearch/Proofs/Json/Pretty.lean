import QuoteSearch.Proofs.Json.Grammar

/-! # Indented JSON

The indented text of a value without floats is a text of the document that has the same parts.
-/

namespace QuoteSearch.Json

open Document

mutual

/-- What a value is read as. A float that is no finite number is written as null. -/
def document : Json → Document
  | .null => .null
  | .bool b => .bool b
  | .int n => .number (.ok (.ofInt n))
  | .float x => if (Decimal.text? x).isSome then .number (.ok (.real x)) else .null
  | .str s => .string (.ok s)
  | .arr items => .list (itemDocuments items) none
  | .obj members => .record (memberDocuments members) none

def itemDocuments : List Json → List Document
  | [] => []
  | item :: rest => document item :: itemDocuments rest

def memberDocuments : List (String × Json) → List (Token String × Document)
  | [] => []
  | (key, value) :: rest => (.ok key, document value) :: memberDocuments rest

end

/-- A value without floats whose whole numbers are read as such. -/
inductive IsWhole : Json → Prop
  | null : IsWhole .null
  | bool (b : Bool) : IsWhole (.bool b)
  | int {n : Int} : -(Number.mostNegative : Int) ≤ n → n ≤ Number.mostNatural → IsWhole (.int n)
  | str (s : String) : IsWhole (.str s)
  | arr {items : List Json} : (∀ item ∈ items, IsWhole item) → IsWhole (.arr items)
  | obj {members : List (String × Json)} : (∀ member ∈ members, IsWhole member.2) → IsWhole (.obj members)

theorem itemDocuments_eq_map (items : List Json) : itemDocuments items = items.map document := by
  induction items with
  | nil => rfl
  | cons item rest ih => rw [itemDocuments, ih, List.map_cons]

theorem memberDocuments_eq_map (members : List (String × Json)) :
    memberDocuments members = members.map fun member => (.ok member.1, document member.2) := by
  induction members with
  | nil => rfl
  | cons member rest ih => rw [memberDocuments, ih, List.map_cons]

theorem prettyItems_eq_map (level : Nat) (items : List Json) :
    prettyItems level items = items.map (prettyChars level) := by
  induction items with
  | nil => rfl
  | cons item rest ih => rw [prettyItems, ih, List.map_cons]

theorem prettyMembers_eq_map (level : Nat) (members : List (String × Json)) :
    prettyMembers level members =
      members.map fun member => quoted member.1.toList ++ ':' :: ' ' :: prettyChars level member.2 := by
  induction members with
  | nil => rfl
  | cons member rest ih => rw [prettyMembers, ih, List.map_cons]

theorem isGap_newLine (level : Nat) : IsGap (newLine level) := by
  intro c hc
  rcases List.mem_cons.mp hc with rfl | hc
  · rfl
  · rw [List.eq_of_mem_replicate hc]
    rfl

theorem isGap_nil : IsGap [] := fun _ hc => (by cases hc)

/-- Parts that are joined behind a gap each are parts with gaps around them. -/
theorem joined_spaced {α : Type} (IsPart : α → List Char → Prop) (AreParts : List α → List Char → Prop)
    (last : ∀ {a text}, IsPart a text → AreParts [a] text)
    (more : ∀ {a as text texts}, IsPart a text → AreParts as texts → AreParts (a :: as) (text ++ ',' :: texts))
    {front back : List Char} (hBack : IsGap back) {text : α → List Char} {parts : List α} (hNonempty : parts ≠ [])
    (h : ∀ a ∈ parts, ∀ after, IsGap after → IsPart a (front ++ (text a ++ after))) :
    AreParts parts (front ++ (joined (',' :: front) (parts.map text) ++ back)) := by
  induction parts with
  | nil => exact absurd rfl hNonempty
  | cons a rest ih =>
    obtain ⟨hFirst, hRest⟩ := List.forall_mem_cons.mp h
    cases rest with
    | nil => exact last (hFirst back hBack)
    | cons b rest =>
      have hJoined : joined (',' :: front) ((a :: b :: rest).map text) =
          text a ++ (',' :: front) ++ joined (',' :: front) ((b :: rest).map text) := rfl
      have hPart : IsPart a (front ++ text a) := by
        have hPlain := hFirst [] isGap_nil
        rwa [List.append_nil] at hPlain
      rw [hJoined, List.append_assoc, List.append_assoc, ← List.append_assoc front, List.cons_append]
      exact more hPart (ih (List.cons_ne_nil b rest) hRest)

/-- Texts that are laid out one a line stand between brackets, with gaps around them. -/
theorem block_map_eq {α : Type} (left right : Char) (level : Nat) {text : α → List Char} {parts : List α}
    (h : parts ≠ []) : block left right level (parts.map text) =
      left :: ((newLine (level + 1) ++ (joined (',' :: newLine (level + 1)) (parts.map text) ++ newLine level)) ++
        [right]) := by
  obtain ⟨a, rest, rfl⟩ := List.exists_cons_of_ne_nil h
  rw [List.map_cons, block]
  · simp only [List.cons_append, List.append_assoc]
  · rintro ⟨⟩

theorem IsWhole.isText {v : Json} : IsWhole v → ∀ level, IsText (document v) (prettyChars level v)
  | .null, _ => .null
  | .bool b, _ => .bool b
  | @IsWhole.int n hLeast hMost, _ => by
    have hText := IsText.number (NumberText.isWritten_ofInt n)
    rwa [NumberText.token_ofInt hLeast hMost, NumberText.chars_ofInt] at hText
  | .str s, _ => by
    have hText := IsText.string (isSpelled_escape s.toList)
    rwa [String.ofList_toList] at hText
  | @IsWhole.arr items h, level => by
    rw [document, prettyChars, itemDocuments_eq_map, prettyItems_eq_map]
    by_cases hNone : items = []
    · rw [hNone]
      exact .emptyList isGap_nil
    · rw [block_map_eq _ _ _ hNone]
      refine .list (joined_spaced (fun item => IsItem (document item))
        (fun items => AreItems (items.map document)) .last .more (isGap_newLine level) hNone ?_)
      intro item hItem after hAfter
      exact .spaced (isGap_newLine _) ((h item hItem).isText (level + 1)) hAfter
  | @IsWhole.obj members h, level => by
    rw [document, prettyChars, memberDocuments_eq_map, prettyMembers_eq_map]
    by_cases hNone : members = []
    · rw [hNone]
      exact .emptyRecord isGap_nil
    · rw [block_map_eq _ _ _ hNone]
      refine .record (joined_spaced (fun member => IsMember (.ok member.1, document member.2))
        (fun members => AreMembers (members.map fun member => (.ok member.1, document member.2))) .last .more
        (isGap_newLine level) hNone ?_)
      intro member hMember after hAfter
      have hBlank : IsGap [' '] := List.forall_mem_singleton.mpr rfl
      have hValue : IsItem (document member.2) ([' '] ++ (prettyChars (level + 1) member.2 ++ after)) :=
        .spaced hBlank ((h member hMember).isText (level + 1)) hAfter
      have hPart := IsMember.spaced (isSpelled_escape member.1.toList) (isGap_newLine (level + 1)) isGap_nil hValue
      rw [String.ofList_toList] at hPart
      simpa only [quoted, List.append_assoc, List.cons_append, List.nil_append] using hPart

theorem isItem_pretty {v : Json} (h : v.IsWhole) : IsItem v.document v.pretty.toList := by
  have hItem := IsItem.spaced isGap_nil (h.isText 0) isGap_nil
  rw [pretty, String.toList_ofList]
  rwa [List.nil_append, List.append_nil] at hItem

/-- The indented text of a value is decoded as the value. -/
theorem ofText_pretty {v : Json} (h : v.IsWhole) {α : Type} (decoder : Decoder α) :
    Decode.ofText decoder v.pretty = decoder v.document := ofText_of_isItem (isItem_pretty h) decoder

end QuoteSearch.Json
