import QuoteSearch.Catalog.Write
import Mathlib.Data.List.Basic

/-! # What a write adds

Videos are written under their ids. Quotes are written if all their times are numbers and their
video is there; they then stand behind the quotes that were there, under the next numbers.
-/

namespace QuoteSearch

def NewQuote.IsTimed (q : NewQuote) : Prop :=
  Decimal.isNotANumber q.startTime = false ∧ Decimal.isNotANumber q.endTime = false

def Quote.IsTimed (q : Quote) : Prop :=
  Decimal.isNotANumber q.startTime = false ∧ Decimal.isNotANumber q.endTime = false

theorem Decimal.isNotANumber_withoutNegativeZero (x : Float) :
    isNotANumber (withoutNegativeZero x) = isNotANumber x := by
  unfold withoutNegativeZero
  split
  · rename_i exponent hZero
    have hPositive : isNotANumber 0 = false := by decide
    rw [hPositive, isNotANumber, hZero]
    rfl
  · rfl

namespace Catalog

theorem map_id_putVideo (video : Video) (videos : List Video) :
    (putVideo video videos).map Video.id =
      if video.id ∈ videos.map Video.id then videos.map Video.id
      else videos.map Video.id ++ [video.id] := by
  induction videos with
  | nil => rfl
  | cons v rest ih =>
    rw [putVideo]
    by_cases hv : v.id = video.id
    · simp [hv]
    · rw [if_neg hv, List.map_cons, ih]
      by_cases hRest : video.id ∈ rest.map Video.id
      · simp [hRest]
      · simp [hRest, Ne.symm hv]

variable {c c' : Catalog} {videoId : String}

theorem mem_ids_upsertVideos {videos : List Video} {id : String} :
    id ∈ (c.upsertVideos videos).videos.map Video.id ↔
      id ∈ c.videos.map Video.id ∨ id ∈ videos.map Video.id := by
  rw [upsertVideos]
  induction videos generalizing c with
  | nil => simp
  | cons video rest ih =>
    have hOne : id ∈ (c.upsertVideo video).videos.map Video.id ↔
        id ∈ c.videos.map Video.id ∨ id = video.id := by
      rw [upsertVideo, map_id_putVideo]
      split
      · rename_i hKnown
        constructor
        · exact Or.inl
        · rintro (hId | rfl)
          · exact hId
          · exact hKnown
      · rw [List.mem_append, List.mem_singleton]
    rw [List.foldl_cons, ih, hOne, List.map_cons, List.mem_cons, or_assoc]

theorem quotes_upsertVideos (c : Catalog) (videos : List Video) :
    (c.upsertVideos videos).quotes = c.quotes ∧ (c.upsertVideos videos).lastQuote = c.lastQuote := by
  rw [upsertVideos]
  induction videos generalizing c with
  | nil => exact ⟨rfl, rfl⟩
  | cons video rest ih => exact ih (c.upsertVideo video)

theorem isSome_findVideo_iff {id : String} :
    (c.findVideo id).isSome = true ↔ id ∈ c.videos.map Video.id := by
  simp [findVideo, List.find?_isSome]

/-- The quote as it is kept under a number. -/
def numberedQuote (number : Nat) (videoId : String) (q : NewQuote) : Quote where
  id := number
  videoId := videoId
  startTime := Decimal.withoutNegativeZero q.startTime
  endTime := Decimal.withoutNegativeZero q.endTime
  content := q.content

theorem isTimed_numberedQuote {number : Nat} {q : NewQuote} :
    (numberedQuote number videoId q).IsTimed ↔ q.IsTimed := by
  simp only [Quote.IsTimed, numberedQuote, Decimal.isNotANumber_withoutNegativeZero, NewQuote.IsTimed]

/-- Segments with the ids of their videos, under the numbers that follow `last`. -/
def numberFrom (last : Nat) (entries : List (String × NewQuote)) : List Quote :=
  (entries.zipIdx (last + 1)).map fun entry => numberedQuote entry.2 entry.1.1 entry.1.2

theorem numberFrom_append (last : Nat) (first second : List (String × NewQuote)) :
    numberFrom last (first ++ second) =
      numberFrom last first ++ numberFrom (last + first.length) second := by
  rw [numberFrom, List.zipIdx_append, List.map_append, Nat.add_right_comm]
  rfl

theorem map_id_numberFrom (last : Nat) (entries : List (String × NewQuote)) :
    (numberFrom last entries).map Quote.id =
      (List.range' (last + 1) entries.length).map fun n : Nat => (n : Int) := by
  rw [← List.zipIdx_map_snd, numberFrom, List.map_map, List.map_map]
  rfl

theorem exists_of_mem_numberFrom {last : Nat} {entries : List (String × NewQuote)} {q : Quote}
    (h : q ∈ numberFrom last entries) :
    ∃ number, ∃ entry ∈ entries, q = numberedQuote number entry.1 entry.2 := by
  obtain ⟨⟨entry, number⟩, hEntry, rfl⟩ := List.mem_map.mp h
  exact ⟨number, entry, List.fst_mem_of_mem_zipIdx hEntry, rfl⟩

theorem numberFrom_map (last : Nat) (videoId : String) (quotes : List NewQuote) :
    numberFrom last (quotes.map (videoId, ·)) =
      quotes.mapIdx fun i q => numberedQuote (last + 1 + i) videoId q := by
  rw [numberFrom, List.mapIdx_eq_zipIdx_map, List.zipIdx_map, List.zipIdx_eq_map_add, List.map_map, List.map_map]
  rfl

/-- The catalogue with more quotes of one video. -/
def withQuotes (c : Catalog) (videoId : String) (quotes : List NewQuote) : Catalog :=
  { c with
    quotes := c.quotes ++ numberFrom c.lastQuote (quotes.map (videoId, ·))
    lastQuote := c.lastQuote + quotes.length }

theorem withQuotes_nil (c : Catalog) (videoId : String) : c.withQuotes videoId [] = c := by
  simp [withQuotes, numberFrom]

theorem withQuotes_cons (c : Catalog) (videoId : String) (q : NewQuote) (rest : List NewQuote) :
    (c.withQuotes videoId [q]).withQuotes videoId rest = c.withQuotes videoId (q :: rest) := by
  have hSplit := numberFrom_append c.lastQuote [(videoId, q)] (rest.map (videoId, ·))
  simp only [withQuotes, List.map_cons, List.map_nil, List.length_cons, List.length_nil] at hSplit ⊢
  rw [List.append_assoc, ← hSplit, List.singleton_append, Nat.add_assoc, Nat.add_comm 1]

theorem insertQuote_eq_ok_iff {q : NewQuote} :
    c.insertQuote videoId q = .ok c' ↔
      q.IsTimed ∧ videoId ∈ c.videos.map Video.id ∧ c' = c.withQuotes videoId [q] := by
  rw [← isSome_findVideo_iff, NewQuote.IsTimed, insertQuote]
  cases Decimal.isNotANumber q.startTime with
  | true => simp
  | false =>
    cases Decimal.isNotANumber q.endTime with
    | true => simp
    | false =>
      cases c.findVideo videoId with
      | none => simp
      | some v =>
        simp only [Bool.false_eq_true, if_false, Option.isNone_some, Option.isSome_some, true_and,
          Except.ok.injEq, eq_comm (a := c')]
        rfl

theorem insertQuotes_nil (c : Catalog) (videoId : String) : c.insertQuotes videoId [] = .ok c := rfl

theorem insertQuotes_cons (c : Catalog) (videoId : String) (q : NewQuote) (rest : List NewQuote) :
    c.insertQuotes videoId (q :: rest) =
      (c.insertQuote videoId q).bind fun c' => c'.insertQuotes videoId rest := by
  rw [insertQuotes, insertEach]
  cases c.insertQuote videoId q <;> rfl

theorem insertQuotes_eq_ok_iff {quotes : List NewQuote} :
    c.insertQuotes videoId quotes = .ok c' ↔
      (∀ q ∈ quotes, q.IsTimed) ∧ (quotes ≠ [] → videoId ∈ c.videos.map Video.id) ∧
        c' = c.withQuotes videoId quotes := by
  induction quotes generalizing c with
  | nil =>
    rw [withQuotes_nil, insertQuotes_nil, Except.ok.injEq, eq_comm]
    simp
  | cons q rest ih =>
    rw [insertQuotes_cons, List.forall_mem_cons, ← withQuotes_cons]
    constructor
    · intro h
      cases hFirst : c.insertQuote videoId q with
      | error fault =>
        rw [hFirst] at h
        cases h
      | ok c₁ =>
        rw [hFirst] at h
        obtain ⟨hTimed, hVideo, rfl⟩ := insertQuote_eq_ok_iff.mp hFirst
        obtain ⟨hRest, -, rfl⟩ := ih.mp h
        exact ⟨⟨hTimed, hRest⟩, fun _ => hVideo, rfl⟩
    · rintro ⟨⟨hTimed, hRest⟩, hVideo, rfl⟩
      have hKnown := hVideo (List.cons_ne_nil q rest)
      have hFirst : c.insertQuote videoId q = .ok (c.withQuotes videoId [q]) :=
        insertQuote_eq_ok_iff.mpr ⟨hTimed, hKnown, rfl⟩
      rw [hFirst]
      exact ih.mpr ⟨hRest, fun _ => hKnown, rfl⟩

theorem insertQuotes_append (c : Catalog) (videoId : String) (first second : List NewQuote) :
    c.insertQuotes videoId (first ++ second) =
      (c.insertQuotes videoId first).bind fun c' => c'.insertQuotes videoId second := by
  induction first generalizing c with
  | nil => rfl
  | cons q rest ih =>
    rw [List.cons_append, insertQuotes_cons, insertQuotes_cons]
    cases c.insertQuote videoId q with
    | error fault => rfl
    | ok c₁ => exact ih c₁

theorem exists_insertQuotes_eq_error_iff {quotes : List NewQuote} :
    (∃ fault, c.insertQuotes videoId quotes = .error fault) ↔
      quotes ≠ [] ∧ (videoId ∉ c.videos.map Video.id ∨ ∃ q ∈ quotes, ¬ q.IsTimed) := by
  have hWritten : (∃ c', c.insertQuotes videoId quotes = .ok c') ↔
      (∀ q ∈ quotes, q.IsTimed) ∧ (quotes ≠ [] → videoId ∈ c.videos.map Video.id) := by
    simp only [insertQuotes_eq_ok_iff, exists_and_left, exists_eq, and_true]
  have hFailed : (∃ fault, c.insertQuotes videoId quotes = .error fault) ↔
      ¬ ∃ c', c.insertQuotes videoId quotes = .ok c' := by
    cases c.insertQuotes videoId quotes <;> simp
  rw [hFailed, hWritten]
  cases quotes with
  | nil => simp
  | cons q rest =>
    simp only [ne_eq, reduceCtorEq, not_false_eq_true, forall_const, true_and, not_and_or, not_forall,
      exists_prop]
    exact or_comm

/-- The quotes before the one that cannot be written are written first. -/
theorem exists_of_insertQuotes_eq_error {quotes : List NewQuote} {fault : WriteFault}
    (h : c.insertQuotes videoId quotes = .error fault) :
    ∃ before q rest, quotes = before ++ q :: rest ∧
      c.insertQuotes videoId before = .ok (c.withQuotes videoId before) ∧
      (c.withQuotes videoId before).insertQuote videoId q = .error fault := by
  induction quotes generalizing c with
  | nil => cases h
  | cons q rest ih =>
    cases hFirst : c.insertQuote videoId q with
    | error first =>
      rw [insertQuotes_cons, hFirst] at h
      cases h
      exact ⟨[], q, rest, rfl, by rw [withQuotes_nil]; rfl, by rw [withQuotes_nil, hFirst]⟩
    | ok c₁ =>
      obtain ⟨-, -, rfl⟩ := insertQuote_eq_ok_iff.mp hFirst
      rw [insertQuotes_cons, hFirst] at h
      obtain ⟨before, bad, after, rfl, hBefore, hBad⟩ := ih h
      rw [withQuotes_cons] at hBefore hBad
      refine ⟨q :: before, bad, after, rfl, ?_, hBad⟩
      rw [insertQuotes_cons, hFirst]
      exact hBefore

end Catalog

end QuoteSearch
