import QuoteSearch.Proofs.Store.Run

/-! # The history of a store

What a store holds is what its successful calls wrote. Calls that fail leave no trace, and no call
changes or removes a quote, closing a lasting database and opening it again included.
-/

namespace QuoteSearch

namespace Catalog

/-- One catalogue has the videos of the other and those of some ids, and some quotes more. -/
structure Extends (c c' : Catalog) (ids : List String) (entries : List (String × NewQuote)) : Prop where
  ids : ∀ id, id ∈ c'.videos.map Video.id ↔ id ∈ c.videos.map Video.id ∨ id ∈ ids
  quotes : c'.quotes = c.quotes ++ numberFrom c.lastQuote entries
  lastQuote : c'.lastQuote = c.lastQuote + entries.length
  timed : ∀ entry ∈ entries, entry.2.IsTimed

variable {c c' c'' : Catalog}

theorem Extends.refl (c : Catalog) : c.Extends c [] [] where
  ids := by simp
  quotes := by simp [numberFrom]
  lastQuote := rfl
  timed := by simp

theorem Extends.trans {ids ids' : List String} {entries entries' : List (String × NewQuote)}
    (h : c.Extends c' ids entries) (h' : c'.Extends c'' ids' entries') :
    c.Extends c'' (ids ++ ids') (entries ++ entries') where
  ids id := by rw [h'.ids, h.ids, List.mem_append, or_assoc]
  quotes := by rw [h'.quotes, h.quotes, h.lastQuote, numberFrom_append, List.append_assoc]
  lastQuote := by rw [h'.lastQuote, h.lastQuote, List.length_append, Nat.add_assoc]
  timed := List.forall_mem_append.mpr ⟨h.timed, h'.timed⟩

theorem extends_upsertVideos (c : Catalog) (videos : List Video) :
    c.Extends (c.upsertVideos videos) (videos.map Video.id) [] where
  ids _ := mem_ids_upsertVideos
  quotes := by simp [numberFrom, quotes_upsertVideos]
  lastQuote := (c.quotes_upsertVideos videos).2
  timed := by simp

theorem extends_insertQuotes {videoId : String} {quotes : List NewQuote}
    (h : c.insertQuotes videoId quotes = .ok c') : c.Extends c' [] (quotes.map (videoId, ·)) := by
  obtain ⟨hTimed, -, rfl⟩ := insertQuotes_eq_ok_iff.mp h
  refine ⟨by simp [withQuotes], rfl, ?_, ?_⟩
  · rw [withQuotes, List.length_map]
  · intro entry hEntry
    obtain ⟨q, hq, rfl⟩ := List.mem_map.mp hEntry
    exact hTimed q hq

end Catalog

namespace Store

/-- What the database of a store holds, open or closed. -/
def catalog (s : Store) : Catalog := s.tables.getD .empty

/-- The ids of the videos that a call wrote. -/
def upsertedIds (s : Store) : Call → List String
  | .upsertVideos videos => if (s.upsertVideos videos).isOk then videos.map Video.id else []
  | _ => []

/-- The quotes that a call wrote, each with the id of its video. -/
def insertedQuotes (s : Store) : Call → List (String × NewQuote)
  | .insertQuotes videoId quotes =>
    if (s.insertQuotes videoId quotes).isOk then quotes.map (videoId, ·) else []
  | _ => []

/-- The number that a successful call returned of the quotes that it wrote. -/
def insertedCount (s : Store) : Call → Nat
  | .insertQuotes videoId quotes =>
    match s.insertQuotes videoId quotes with
    | .ok (n, _) => n
    | .error _ => 0
  | _ => 0

/-- What the calls of a run did, one after the other. -/
def recorded {α : Type} (record : Store → Call → List α) (s : Store) : List Call → List α
  | [] => []
  | call :: rest => record s call ++ (s.after call).recorded record rest

def insertedTotal (s : Store) : List Call → Nat
  | [] => 0
  | call :: rest => s.insertedCount call + (s.after call).insertedTotal rest

variable {s : Store}

theorem IsNew.catalog_eq (h : IsNew s) : s.catalog = .empty := by
  rw [catalog, h.noTables]
  rfl

theorem WellFormed.catalog (h : s.WellFormed) : s.catalog.WellFormed := by
  cases hTables : s.tables with
  | none =>
    rw [Store.catalog, hTables]
    exact Catalog.wellFormed_empty
  | some c =>
    rw [Store.catalog, hTables]
    exact h c hTables

theorem Holds.catalog_eq {c : Catalog} (h : s.Holds c) : s.catalog = c := by
  rw [catalog, h.tables]
  rfl

theorem insertedCount_eq (s : Store) (call : Call) :
    s.insertedCount call = (s.insertedQuotes call).length := by
  cases call with
  | insertQuotes videoId quotes =>
    cases hInsert : s.insertQuotes videoId quotes with
    | error fault => simp [insertedCount, insertedQuotes, hInsert, Except.isOk, Except.toBool]
    | ok result =>
      obtain ⟨hCount, -⟩ := insertQuotes_eq_ok hInsert
      simp [insertedCount, insertedQuotes, hInsert, Except.isOk, Except.toBool, hCount]
  | _ => rfl

theorem insertedTotal_eq (s : Store) (calls : List Call) :
    s.insertedTotal calls = (s.recorded insertedQuotes calls).length := by
  induction calls generalizing s with
  | nil => rfl
  | cons call rest ih => rw [insertedTotal, recorded, List.length_append, insertedCount_eq, ih]

theorem extends_after (s : Store) (call : Call) (hLasting : call = .reopen → s.address.isLasting = true) :
    s.catalog.Extends (s.after call).catalog (s.upsertedIds call) (s.insertedQuotes call) := by
  cases call with
  | init =>
    cases hInit : s.init with
    | error fault =>
      rw [after_init_of_error hInit]
      exact .refl _
    | ok s' =>
      obtain ⟨-, -, rfl⟩ := init_eq_ok_iff.mp hInit
      rw [after_init_of_ok hInit]
      exact .refl _
  | upsertVideos videos =>
    cases hUpsert : s.upsertVideos videos with
    | error fault =>
      rw [after_upsertVideos_of_error hUpsert, upsertedIds, hUpsert]
      exact .refl _
    | ok result =>
      rw [after_upsertVideos_of_ok hUpsert, upsertedIds, hUpsert]
      obtain ⟨-, ⟨rfl, hSame⟩ | ⟨c, hHolds, hNew⟩⟩ := upsertVideos_eq_ok hUpsert
      · rw [hSame]
        exact .refl _
      · rw [hNew, hHolds.catalog_eq]
        exact c.extends_upsertVideos videos
  | insertQuotes videoId quotes =>
    cases hInsert : s.insertQuotes videoId quotes with
    | error fault =>
      rw [after_insertQuotes_of_error hInsert, insertedQuotes, hInsert]
      exact .refl _
    | ok result =>
      rw [after_insertQuotes_of_ok hInsert, insertedQuotes, hInsert]
      obtain ⟨-, ⟨rfl, hSame⟩ | ⟨c, c', hHolds, hCatalog, hNew⟩⟩ := insertQuotes_eq_ok hInsert
      · rw [hSame]
        exact .refl _
      · rw [hNew, hHolds.catalog_eq]
        exact Catalog.extends_insertQuotes hCatalog
  | close => exact .refl _
  | reopen =>
    have hTables : (s.after .reopen).catalog = s.catalog := by
      rw [after, reopen, hLasting rfl, if_pos rfl]
      rfl
    rw [hTables]
    exact .refl _

theorem extends_run (s : Store) (calls : List Call)
    (hLasting : Call.reopen ∈ calls → s.address.isLasting = true) :
    s.catalog.Extends (s.run calls).catalog (s.recorded upsertedIds calls)
      (s.recorded insertedQuotes calls) := by
  induction calls generalizing s with
  | nil => exact .refl _
  | cons call rest ih =>
    have hFirst := s.extends_after call fun hCall => hLasting (hCall ▸ List.mem_cons_self)
    have hRest := ih (s.after call) fun hMem => by
      rw [address_after]
      exact hLasting (List.mem_cons_of_mem call hMem)
    exact hFirst.trans hRest

/-- What a store holds after some calls, in terms of those that succeeded, and that it stays. -/
structure KeepsHistory (new : Store) (calls : List Call) : Prop where
  videoOnce : ((new.run calls).catalog.videos.map Video.id).Nodup
  owned : ∀ q ∈ (new.run calls).catalog.quotes, ∃ v ∈ (new.run calls).catalog.videos, v.id = q.videoId
  numbered : (new.run calls).catalog.quotes.map Quote.id =
    (List.range' 1 (new.insertedTotal calls)).map fun n : Nat => (n : Int)
  inOrder : (new.run calls).catalog.quotes = Catalog.numberFrom 0 (new.recorded insertedQuotes calls)
  timed : ∀ q ∈ (new.run calls).catalog.quotes, q.IsTimed
  stays : ∀ later, (Call.reopen ∈ later → new.address.isLasting = true) →
    (new.run calls).catalog.quotes <+: (new.run (calls ++ later)).catalog.quotes
  ids : ∀ id, id ∈ (new.run calls).catalog.videos.map Video.id ↔ id ∈ new.recorded upsertedIds calls

/-- Whatever is called, and whether it succeeds or fails, the database holds exactly what was
written, with the quotes numbered from one on in the order in which they were written. -/
theorem run_keeps_history {new : Store} (hNew : IsNew new) {calls : List Call}
    (hLasting : Call.reopen ∈ calls → new.address.isLasting = true) : KeepsHistory new calls := by
  have hExtends := new.extends_run calls hLasting
  have hReachable : (new.run calls).Reachable := ⟨new, calls, hNew, rfl⟩
  have hWellFormed := hReachable.wellFormed.catalog
  rw [hNew.catalog_eq] at hExtends
  have hInOrder : (new.run calls).catalog.quotes =
      Catalog.numberFrom 0 (new.recorded insertedQuotes calls) := hExtends.quotes
  refine ⟨hWellFormed.ids, ?_, ?_, hInOrder, ?_, ?_, ?_⟩
  · intro q hq
    exact List.mem_map.mp (hWellFormed.owned q hq)
  · rw [hInOrder, Catalog.map_id_numberFrom, insertedTotal_eq]
  · intro q hq
    rw [hInOrder] at hq
    obtain ⟨number, entry, hEntry, rfl⟩ := Catalog.exists_of_mem_numberFrom hq
    exact Catalog.isTimed_numberedQuote.mpr (hExtends.timed entry hEntry)
  · intro later hLater
    have hRun : new.run (calls ++ later) = (new.run calls).run later := List.foldl_append
    have hMore := (new.run calls).extends_run later fun hMem => by
      rw [address_run]
      exact hLater hMem
    rw [hRun, hMore.quotes]
    exact List.prefix_append _ _
  · intro id
    rw [hExtends.ids]
    simp [Catalog.empty]

/-- A database in a file. -/
def sampleFile : Store := ⟨⟨.file "quotes.db", false, none⟩, true, none⟩

theorem sample_keeps_history :
    IsNew sampleFile ∧ sampleFile.address.isLasting = true ∧
      KeepsHistory sampleFile
        [.insertQuotes "hardcore001" [⟨65, 67, "before the tables are made"⟩],
          .init,
          .upsertVideos [⟨"hardcore001", "Minecraft Hardcore", "", ⟨2023, 1, 10, by decide⟩⟩],
          .insertQuotes "hardcore001" [⟨65, 67, "a creeper & a"⟩, ⟨0, 2, "Creeper, again"⟩],
          .insertQuotes "legends0001" [⟨5, 7, "of no video"⟩],
          .close,
          .insertQuotes "hardcore001" [⟨5, 7, "while it is closed"⟩],
          .reopen,
          .init,
          .upsertVideos [⟨"hardcore001", "Minecraft", "", ⟨2023, 1, 11, by decide⟩⟩],
          .insertQuotes "hardcore001" [⟨90, 92, "one more"⟩]] :=
  ⟨⟨rfl, rfl⟩, rfl, run_keeps_history ⟨rfl, rfl⟩ fun _ => rfl⟩

end Store

end QuoteSearch
