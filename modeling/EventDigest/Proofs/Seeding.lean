import EventDigest.Proofs.Dispatch
import EventDigest.Proofs.Reachable
import EventDigest.Startup
import Mathlib.Data.List.Nodup

/-! # Seeding the publishers

Seeding adds a row for each standard publisher whose name is missing and touches no other row. Each
name is looked up in the table as it is by then; since the names differ, that is the same as looking
all of them up beforehand.
-/
set_option autoImplicit false
namespace EventDigest
variable {β γ : Type}

namespace Store

/-- The names of the publishers, one for each row. -/
def publisherNames (store : Store) : List String := store.publishers.map (·.name)

theorem publisherNamed?_isSome_iff (store : Store) (name : String) :
    (store.publisherNamed? name).isSome = true ↔ name ∈ store.publisherNames := by
  rw [publisherNamed?, List.find?_isSome, publisherNames, List.mem_map]
  simp only [decide_eq_true_eq]

/-- The seeds that no publisher of the store is named for. -/
def missing (store : Store) (seeds : List Seed) : List Seed :=
  seeds.filter fun seed => seed.name ∉ store.publisherNames

/-- The row was made from the seed. -/
def Seed.Makes (seed : Seed) (row : PublisherRow) : Prop := row = seed.row row.id

def withPublishers (store : Store) (added : List PublisherRow) : Store :=
  { store with
    issued := store.issued + added.length
    publishers := store.publishers ++ added }

theorem withPublishers_nil (store : Store) : store.withPublishers [] = store := by
  simp [withPublishers]

theorem withPublishers_cons (store : Store) (row : PublisherRow) (rest : List PublisherRow) :
    (store.withPublishers [row]).withPublishers rest = store.withPublishers (row :: rest) := by
  simp [withPublishers, Nat.add_comm, Nat.add_left_comm]

theorem publisherNames_withPublishers (store : Store) (added : List PublisherRow) :
    (store.withPublishers added).publisherNames =
      store.publisherNames ++ added.map (·.name) := List.map_append

theorem plant_of_mem {store : Store} {seed : Seed} (h : seed.name ∈ store.publisherNames) :
    store.plant seed = store := by
  rw [plant, if_pos ((publisherNamed?_isSome_iff ..).mpr h)]

theorem plant_of_not_mem {store : Store} {seed : Seed} (h : seed.name ∉ store.publisherNames) :
    store.plant seed = store.withPublishers [seed.row store.nextId] := by
  rw [plant, if_neg (mt (publisherNamed?_isSome_iff ..).mp h)]
  rfl

/-- A row that was planted names none of the seeds that are still to come. -/
theorem missing_withPublishers {store : Store} {seeds : List Seed} {row : PublisherRow}
    (h : row.name ∉ seeds.map (·.name)) :
    (store.withPublishers [row]).missing seeds = store.missing seeds := by
  apply List.filter_congr
  intro seed hSeed
  have hOther : seed.name ≠ row.name := by
    intro hName
    exact h (hName ▸ List.mem_map_of_mem hSeed)
  rw [publisherNames_withPublishers]
  simp [hOther]

/-- Planting seeds of different names one after the other adds a row for each missing one. -/
theorem exists_planted {seeds : List Seed} (hSeeds : (seeds.map (·.name)).Nodup) (store : Store) :
    ∃ added, List.Forall₂ Seed.Makes (store.missing seeds) added ∧
      seeds.foldl plant store = store.withPublishers added := by
  induction seeds generalizing store with
  | nil => exact ⟨[], .nil, store.withPublishers_nil.symm⟩
  | cons seed rest ih =>
    rw [List.map_cons, List.nodup_cons] at hSeeds
    rw [List.foldl_cons]
    by_cases hPresent : seed.name ∈ store.publisherNames
    · have hMissing : store.missing (seed :: rest) = store.missing rest :=
        List.filter_cons_of_neg (by simpa using hPresent)
      rw [plant_of_mem hPresent, hMissing]
      exact ih hSeeds.2 store
    · have hMissing : store.missing (seed :: rest) = seed :: store.missing rest :=
        List.filter_cons_of_pos (by simpa using hPresent)
      rw [plant_of_not_mem hPresent, hMissing]
      obtain ⟨added, hMade, hPlanted⟩ := ih hSeeds.2 (store.withPublishers [seed.row store.nextId])
      rw [missing_withPublishers hSeeds.1] at hMade
      exact ⟨seed.row store.nextId :: added, .cons rfl hMade,
        hPlanted.trans (store.withPublishers_cons _ _)⟩

theorem names_of_makes {made : List Seed} {added : List PublisherRow}
    (h : List.Forall₂ Seed.Makes made added) : added.map (·.name) = made.map (·.name) := by
  induction h with
  | nil => rfl
  | cons hRow _ ih => rw [List.map_cons, List.map_cons, ih, hRow]; rfl

theorem exists_seed_of_mem {seeds : List Seed} {store : Store} {added : List PublisherRow}
    (h : List.Forall₂ Seed.Makes (store.missing seeds) added) {row : PublisherRow}
    (hRow : row ∈ added) : ∃ seed ∈ seeds, seed.Makes row := by
  obtain ⟨i, hi, rfl⟩ := List.getElem_of_mem hRow
  have hLength := h.length_eq
  exact ⟨_, (List.mem_filter.mp (List.getElem_mem (hLength ▸ hi))).1, h.get (hLength ▸ hi) hi⟩

theorem nodup_seeds : (seeds.map (·.name)).Nodup := by decide

/-- Seeds are told apart from the publishers that are there, and from each other, by their names. -/
theorem nodup_publisherNames_planted {store : Store} (hNames : store.publisherNames.Nodup)
    {seeds : List Seed} (hSeeds : (seeds.map (·.name)).Nodup) {added : List PublisherRow}
    (hMade : List.Forall₂ Seed.Makes (store.missing seeds) added) :
    (store.withPublishers added).publisherNames.Nodup := by
  rw [publisherNames_withPublishers, names_of_makes hMade, List.nodup_append']
  refine ⟨hNames, hSeeds.sublist (List.filter_sublist.map _), ?_⟩
  intro name hOld hNew
  obtain ⟨seed, hSeed, rfl⟩ := List.mem_map.mp hNew
  simpa [hOld] using (List.mem_filter.mp hSeed).2

theorem mem_publisherNames_planted {store : Store} {seeds : List Seed} {added : List PublisherRow}
    (hMade : List.Forall₂ Seed.Makes (store.missing seeds) added) {seed : Seed}
    (hSeed : seed ∈ seeds) : seed.name ∈ (store.withPublishers added).publisherNames := by
  rw [publisherNames_withPublishers, names_of_makes hMade, List.mem_append]
  by_cases hPresent : seed.name ∈ store.publisherNames
  · exact .inl hPresent
  · exact .inr (List.mem_map_of_mem (List.mem_filter.mpr ⟨hSeed, by simpa using hPresent⟩))

/-- What keeps a table from being read does not depend on the publishers. -/
theorem Readable.withPublishers {store : Store} {table : Table} (h : store.Readable table)
    (added : List PublisherRow) : (store.withPublishers added).Readable table := h

theorem seed_eq {store : Store} (h : store.Readable .publishers) {added : List PublisherRow}
    (hPlanted : seeds.foldl plant store = store.withPublishers added) :
    store.seed = .ok (store.withPublishers added, added.length) := by
  have hCount : (store.publishers ++ added).length - store.publishers.length = added.length := by
    rw [List.length_append, Nat.add_sub_cancel_left]
  rw [seed, h.read_eq]
  change Except.ok (seeds.foldl plant store,
    (seeds.foldl plant store).publishers.length - store.publishers.length) = _
  rw [hPlanted]
  exact congrArg (fun count => Except.ok (store.withPublishers added, count)) hCount

theorem seed_of_obstacle {store : Store} {message : String}
    (h : store.obstacle? (.read .publishers) .publishers = some message) :
    store.seed = .error (.store message) := by
  rw [seed, read, h]
  rfl

/-- Where no seed is missing, seeding changes nothing. -/
theorem seed_of_seeded {store : Store} (h : store.Readable .publishers)
    (hSeeded : ∀ seed ∈ seeds, seed.name ∈ store.publisherNames) : store.seed = .ok (store, 0) := by
  obtain ⟨added, hMade, hPlanted⟩ := exists_planted nodup_seeds store
  have hNone : store.missing seeds = [] :=
    List.filter_eq_nil_iff.mpr fun seed hSeed => by simpa using hSeeded seed hSeed
  rw [hNone] at hMade
  obtain rfl := List.forall₂_nil_left_iff.mp hMade
  simpa only [withPublishers_nil, List.length_nil] using seed_eq h hPlanted

/-- The keys of the seeds are normal, and the standard registry has a registration for each. -/
theorem find?_standard (transport : Transport γ) :
    (Registry.standard transport).find? (some "console") =
        some ⟨"console", false, Registry.constructConsole⟩ ∧
      (Registry.standard transport).find? (some "webhook") =
        some ⟨"webhook", false, Registry.constructWebhook transport⟩ ∧
      (Registry.standard transport).find? (some "email") =
        some ⟨"email", true, Registry.constructMail transport⟩ := by
  rw [Registry.standard_eq]
  exact ⟨rfl, rfl, rfl⟩

/-- Every seed is meant for scheduled delivery and leads to a publisher of the class demanded. -/
theorem Seed.Makes.finds {seed : Seed} (hSeed : seed ∈ seeds) {row : PublisherRow}
    (h : seed.Makes row) (transport : Transport γ) (settings : Settings) (outside : γ) :
    ∃ registration publisher, registration.key = row.key ∧
      (Registry.standard transport).Finds settings outside row.descriptor registration publisher
        outside := by
  obtain ⟨hConsole, hWebhook, hMail⟩ := find?_standard transport
  rw [h]
  simp only [seeds, List.mem_cons, List.not_mem_nil, or_false] at hSeed
  rcases hSeed with rfl | rfl | rfl
  · exact ⟨_, _, rfl, rfl, hConsole, rfl, by rintro ⟨⟩⟩
  · exact ⟨_, _, rfl, rfl, hWebhook, rfl, by rintro ⟨⟩⟩
  · exact ⟨_, _, rfl, rfl, hMail, rfl, fun _ => rfl⟩

end Store

namespace Startup
open Store

theorem seedPublishers_returns {world : World β} {store : Store} {created : Nat}
    (h : world.store.seed = .ok (store, created)) :
    (seedPublishers : Run β Nat).Returns world created { world with
      store
      desk := { world.desk with journal := world.desk.journal ++ seedJournal created } } :=
  (Run.returns_query_iff.mpr ⟨h, rfl⟩).bind <| (Run.returns_modify _ _).bind <|
    (Run.returns_logAll _ _).bind <| Run.returns_pure _ _

theorem seedPublishers_returns_of_seeded {world : World β}
    (hRead : world.store.Readable .publishers)
    (hSeeded : ∀ seed ∈ seeds, seed.name ∈ world.store.publisherNames) :
    (seedPublishers : Run β Nat).Returns world 0 world := by
  have hReturns := seedPublishers_returns (seed_of_seeded hRead hSeeded)
  simpa only [seedJournal, if_true, List.append_nil] using hReturns

/-- Seeding a store that can be read adds a row for each standard publisher that is missing, behind
all rows that are there, and counts them. As the table holds no name twice, every standard publisher
is then there once, whoever edited it, and seeding again changes nothing. What was added leads to a
publisher of the standard registry. Where the table cannot be read, seeding fails and changes
nothing either. -/
theorem seeding_converges {world : World β} (hNames : world.store.publisherNames.Nodup) :
    (world.store.Readable .publishers → ∃ added after,
      seedPublishers.Returns world added.length after ∧
      after = { world with
        store := world.store.withPublishers added
        desk := { world.desk with journal := world.desk.journal ++ seedJournal added.length } } ∧
      List.Forall₂ Seed.Makes (world.store.missing seeds) added ∧
      (∀ seed ∈ seeds, after.store.publisherNames.count seed.name = 1) ∧
      seedPublishers.Returns after 0 after ∧
      ∀ row ∈ added, ∀ {γ : Type} (transport : Transport γ) (settings : Settings) (desk : Desk γ),
        ∃ registration publisher, registration.key = row.key ∧
          ((Registry.standard transport).resolve settings (some row.descriptor)).start desk =
            (.ok (registration, publisher), desk)) ∧
    (¬ world.store.Readable .publishers → ∃ message,
      (seedPublishers : Run β Nat).start world = (.error (.store message), world)) := by
  constructor
  · intro hRead
    obtain ⟨added, hMade, hPlanted⟩ := exists_planted nodup_seeds world.store
    have hSeeded : ∀ seed ∈ seeds, seed.name ∈ (world.store.withPublishers added).publisherNames :=
      fun seed => mem_publisherNames_planted hMade
    refine ⟨added, _, seedPublishers_returns (seed_eq hRead hPlanted), rfl, hMade, ?_, ?_, ?_⟩
    · intro seed hSeed
      exact List.count_eq_one_of_mem (nodup_publisherNames_planted hNames nodup_seeds hMade)
        (hSeeded seed hSeed)
    · exact seedPublishers_returns_of_seeded (hRead.withPublishers added) hSeeded
    · intro row hRow γ transport settings desk
      obtain ⟨seed, hSeed, hMakes⟩ := exists_seed_of_mem hMade hRow
      obtain ⟨registration, publisher, hKey, hFinds⟩ :=
        hMakes.finds hSeed transport settings desk.outside
      exact ⟨registration, publisher, hKey, hFinds.start_resolve⟩
  · intro hUnreadable
    obtain ⟨message, hMessage⟩ := Option.ne_none_iff_exists'.mp hUnreadable
    refine ⟨message, ?_⟩
    rw [seedPublishers, Run.start_bind, Run.start_query, seed_of_obstacle hMessage]

end Startup

namespace Sample

/-- The standard publisher for mail as somebody edited it, and one of the operator's own. -/
def editedPublishers : List PublisherRow :=
  [⟨"p1", "Email", none, "pager", some "", "text/html", false, false⟩,
    ⟨"p2", "Pager", none, "webhook", none, "text/plain", false, true⟩]

def editedWorld : World Unit :=
  ⟨{ Store.empty with created := true, publishers := editedPublishers },
    .ticking (.ofInstant .first) 0, ⟨[], [], ()⟩⟩

/-- The same world before its tables were made. -/
def unmadeWorld : World Unit := { editedWorld with store := Store.empty }

end Sample

namespace Startup
open Store

theorem seeding_converges_beside_edited_publishers :
    (Sample.editedWorld.store.publisherNames.Nodup ∧
      Sample.editedWorld.store.Readable .publishers) ∧
    (∃ added after, seedPublishers.Returns Sample.editedWorld 2 after ∧
      after.store.publishers = Sample.editedPublishers ++ added ∧
      added.map (·.name) = ["Console", "Outbound Webhook"] ∧
      after.store.publisherNames.count "Email" = 1 ∧
      seedPublishers.Returns after 0 after) ∧
    ∃ message, (seedPublishers : Run Unit Nat).start Sample.unmadeWorld =
      (.error (.store message), Sample.unmadeWorld) := by
  have hNames : Sample.editedWorld.store.publisherNames.Nodup := by decide
  have hMissing : (Sample.editedWorld.store.missing seeds).map (·.name) =
      ["Console", "Outbound Webhook"] := by decide
  obtain ⟨added, after, hReturns, hAfter, hMade, hOnce, hAgain, _⟩ :=
    (seeding_converges hNames).1 rfl
  have hAdded := (names_of_makes hMade).trans hMissing
  have hCount : added.length = 2 := by simpa using congrArg List.length hAdded
  rw [hCount] at hReturns
  refine ⟨⟨hNames, rfl⟩, ⟨added, after, hReturns, ?_, hAdded, ?_, hAgain⟩, ?_⟩
  · rw [hAfter]
    rfl
  · exact hOnce ⟨"Email", _, _, _, _⟩ (.tail _ (.tail _ (.head _)))
  · have hNone : Sample.unmadeWorld.store.publisherNames.Nodup := List.nodup_nil
    refine (seeding_converges hNone).2 ?_
    intro hRead
    cases hRead

end Startup

end EventDigest
