import Mathlib.Logic.Relation
import SharedRing.Proofs.Contents

/-!
# Wordings of a configuration

A configuration can be worded in many ways: the entries of its sections may stand in any order, entries of unknown
keys may be added, and what is left out may be spelled out with its default. `Rewording` is one such change of what a
document says, and all of them leave it to say the same configuration (`Rewording.config?_eq`), while a second entry
for a known key leaves it to say none (`Doubling.config?_eq_none`). So texts that word one configuration load alike,
however they are written (`reworded_configuration_loads_alike`).
-/

namespace SharedRing

open Yaml (Content Document)

namespace Yaml.Content

/-! ## Contents without aliases -/

variable {slots slots' : Nat → Content} {content : Content} {entries : List (Content × Content)}

theorem entriesAliasFree_iff : entriesAliasFree entries = true ↔
    ∀ entry ∈ entries, entry.1.aliasFree = true ∧ entry.2.aliasFree = true := by
  induction entries with
  | nil => simp [entriesAliasFree]
  | cons entry entries ih => simp [entriesAliasFree, ih, and_assoc]

theorem follow_of_aliasFree (free : content.aliasFree = true) : content.follow slots = content := by
  match content, free with
  | .scalar _, _ | .sequence _, _ | .mapping _, _ | .missing, _ => rfl

/-- What is read from a scalar does not depend on the aliases. -/
theorem follow_of_read {α : Type} {f : Scalar → Option α} {a : α} (said : content.read f = some a) :
    content.follow slots = content := by
  match content, said with
  | .scalar _, _ | .sequence _, _ | .mapping _, _ | .missing, _ => rfl

theorem text?_follow (slots : Nat → Content) {name : String} (said : content.text? = some name) :
    (content.follow slots).text? = some name := by
  rwa [follow_of_read said]

theorem follow_of_entries? (given : content.entries? = some entries) : content.follow slots = content := by
  match content, given with
  | .scalar _, _ | .sequence _, _ | .mapping _, _ | .missing, _ => rfl

theorem aliasFree_of_entries? (free : content.aliasFree = true) (given : content.entries? = some entries) :
    entriesAliasFree entries = true := by
  cases content with
  | scalar leaf =>
    rw [entries?] at given
    split at given
    · cases given
      rfl
    · cases given
  | mapping entries =>
    cases given
    exact free
  | _ => cases given

end Yaml.Content

namespace Config

/-! ## One entry -/

section

variable {α : Type} {read : Content → Option α} {values values' front back : List Content} {value value' : Content}

theorem single_eq_none_of_two_le (read : Content → Option α) (two : 2 ≤ values.length) : single read values = none := by
  match values with
  | first :: second :: rest => rfl

/-- Values that there is at most one of have no order. -/
theorem single_perm (perm : values.Perm values') : single read values = single read values' := by
  match values with
  | [] => rw [perm.nil_eq]
  | [value] => rw [perm.singleton_eq]
  | first :: second :: rest =>
    have two : 2 ≤ values'.length := by
      rw [← perm.length_eq]
      exact Nat.le_add_left 2 rest.length
    rw [single_eq_none_of_two_le read two]
    rfl

theorem single_replace (same : read value = read value') :
    single read (front ++ value :: back) = single read (front ++ value' :: back) := by
  match front, back with
  | [], [] => rw [List.nil_append, List.nil_append, single, single, same]
  | [], next :: rest => rfl
  | first :: rest, back =>
    rw [single_eq_none_of_two_le read (by simp; omega), single_eq_none_of_two_le read (by simp; omega)]

theorem single_eq_none_of_mem (unreadable : read value = none) (member : value ∈ values) :
    single read values = none := by
  match values with
  | [] => cases member
  | [only] =>
    cases List.mem_singleton.1 member
    rw [single, unreadable, Option.map_none]
  | first :: second :: rest => rfl

theorem single_congr {read' : Content → Option α} (same : ∀ value ∈ values, read value = read' value) :
    single read values = single read' values := by
  match values with
  | [] => rfl
  | [value] => rw [single, single, same value (List.mem_singleton_self value)]
  | first :: second :: rest => rfl

end

variable {slots slots' : Nat → Content} {names : List String} {entries entries' front back : List (Content × Content)}
  {key value value' : Content} {name other : String}

theorem values_append : values slots (front ++ back) name = values slots front name ++ values slots back name := by
  rw [values, List.filter_append, List.map_append, values, values]

theorem values_cons_of_named (named : (key.follow slots).text? = some name) :
    values slots ((key, value) :: entries) name = value.follow slots :: values slots entries name := by
  rw [values, List.filter_cons_of_pos (by simpa using named), List.map_cons, values]

theorem values_cons_of_ne (named : (key.follow slots).text? = some name) (ne : other ≠ name) :
    values slots ((key, value) :: entries) other = values slots entries other := by
  have passed : ¬ (key.follow slots).text? = some other := by
    rw [named]
    exact fun same => ne (Option.some.inj same).symm
  rw [values, List.filter_cons_of_neg (by simpa using passed), values]

/-- Whether a section can be read through does not depend on an entry that is no obstacle. -/
theorem orderly_insert (named : (key.follow slots).text? = some name) (passes : name ∈ names ∨ value.isWhole = true) :
    orderly slots names (front ++ (key, value) :: back) = orderly slots names (front ++ back) := by
  have step : (decide (name ∈ names) || value.isWhole) = true := by simpa using passes
  rw [orderly, orderly, List.all_append, List.all_append, List.all_cons, named, Option.any_some, step, Bool.true_and]

/-! ## Sections -/

/-- A change of a section's entries that does not change what they mean. -/
inductive EntriesReworded (names : List String) (Default : String → Content → Prop) :
    List (Content × Content) → List (Content × Content) → Prop where
  | reordered {entries entries' : List (Content × Content)} : entries.Perm entries' →
      EntriesReworded names Default entries entries'
  /-- An entry of an unknown key comes in. -/
  | extended {front back : List (Content × Content)} {key value : Content} {name : String} :
      key.text? = some name → name ∉ names → value.isWhole = true →
      EntriesReworded names Default (front ++ back) (front ++ (key, value) :: back)
  /-- A key that is left out is given with its default. Where keys are no texts, it could be that none is left out. -/
  | completed {front back : List (Content × Content)} {key value : Content} {name : String} :
      key.text? = some name → Default name value →
      (∀ entry ∈ front ++ back, ∃ other, entry.1.text? = some other ∧ other ≠ name) →
      EntriesReworded names Default (front ++ back) (front ++ (key, value) :: back)

/-- A known key that a section gives already is given once more. -/
inductive EntriesDoubled (names : List String) : List (Content × Content) → List (Content × Content) → Prop where
  | doubled {front back : List (Content × Content)} {key value : Content} {name : String} :
      name ∈ names → key.text? = some name → (∃ entry ∈ front ++ back, entry.1.text? = some name) →
      EntriesDoubled names (front ++ back) (front ++ (key, value) :: back)

/-- What a section says depends on the values of its keys: on known keys only, on the order of their values not at all,
a default is what is left out anyway, and there is nothing said if a known key has two values. -/
structure Keyed {α : Type} (slots : Nat → Content) (names : List String) (Default : String → Content → Prop)
    (of? : (String → List Content) → Option α) : Prop where
  perm : ∀ values values', (∀ name ∈ names, (values name).Perm (values' name)) → of? values = of? values'
  default : ∀ values values' name value, Default name value → values name = [] →
    values' name = [value.follow slots] → (∀ other, other ≠ name → values' other = values other) →
    of? values = of? values'
  known : ∀ name value, Default name value → name ∈ names
  twice : ∀ values name, name ∈ names → 2 ≤ (values name).length → of? values = none

theorem values_eq_nil (absent : ∀ entry ∈ entries, ∃ other, entry.1.text? = some other ∧ other ≠ name) :
    values slots entries name = [] := by
  rw [values, List.map_eq_nil_iff, List.filter_eq_nil_iff]
  intro entry member
  obtain ⟨other, said, ne⟩ := absent entry member
  rw [Content.follow_of_read said, said, decide_eq_true_eq]
  exact fun same => ne (Option.some.inj same)

theorem values_insert_of_named (named : (key.follow slots).text? = some name) :
    (values slots (front ++ (key, value) :: back) name).Perm
      (value.follow slots :: values slots (front ++ back) name) := by
  rw [values_append, values_cons_of_named named, values_append]
  exact List.perm_middle

theorem values_insert_of_ne (named : (key.follow slots).text? = some name) (ne : other ≠ name) :
    values slots (front ++ (key, value) :: back) other = values slots (front ++ back) other := by
  rw [values_append, values_cons_of_ne named ne, values_append]

section

variable {α : Type} {Default : String → Content → Prop} {of? : (String → List Content) → Option α}

theorem EntriesReworded.ofValues?_eq (keyed : Keyed slots names Default of?)
    (reworded : EntriesReworded names Default entries entries') :
    ofValues? slots names of? (.mapping entries) = ofValues? slots names of? (.mapping entries') := by
  rw [ofValues?, ofValues?, Content.entries?, Content.entries?, Option.bind_some, Option.bind_some]
  cases reworded with
  | reordered perm =>
    rw [orderly, orderly, perm.all_eq, keyed.perm (values slots entries) (values slots entries')]
    intro name _
    exact (perm.filter _).map _
  | @extended front back key value name said unknown whole =>
    have named := Content.text?_follow slots said
    rw [orderly_insert named (.inr whole), keyed.perm (values slots (front ++ back))]
    intro other known
    rw [values_insert_of_ne named fun same => unknown (same ▸ known)]
  | @completed front back key value name said default absent =>
    have named := Content.text?_follow slots said
    have none_given : values slots (front ++ back) name = [] := values_eq_nil absent
    have one : values slots (front ++ (key, value) :: back) name = [value.follow slots] := by
      apply List.perm_singleton.1
      rw [← none_given]
      exact values_insert_of_named named
    rw [orderly_insert named (.inl (keyed.known _ _ default)), keyed.default _ _ _ _ default none_given one]
    intro other ne
    exact values_insert_of_ne named ne

theorem EntriesDoubled.ofValues?_eq_none (keyed : Keyed slots names Default of?)
    (doubled : EntriesDoubled names entries entries') : ofValues? slots names of? (.mapping entries') = none := by
  obtain @⟨front, back, key, value, name, known, said, entry, member, given⟩ := doubled
  have named := Content.text?_follow slots said
  have first : entry.2.follow slots ∈ values slots (front ++ back) name := by
    refine List.mem_map.2 ⟨entry, List.mem_filter.2 ⟨member, ?_⟩, rfl⟩
    rw [Content.follow_of_read given, given, decide_eq_true_eq]
  have two : 2 ≤ (values slots (front ++ (key, value) :: back) name).length := by
    rw [(values_insert_of_named named).length_eq, List.length_cons]
    exact Nat.succ_le_succ (List.length_pos_of_mem first)
  rw [ofValues?, Content.entries?, Option.bind_some, keyed.twice _ _ known two, ite_self]

end

/-! ### The three sections -/

inductive QueueDefault : String → Content → Prop where
  | name {value : Content} : value.text? = some defaultName → QueueDefault "name" value
  | named {value : Content} : value.boolean? = some false → QueueDefault "named" value

inductive BenchDefault : String → Content → Prop where
  | messages {value : Content} : value.word? = some defaultMessages → BenchDefault "messages" value
  | batch {value : Content} : value.word? = some defaultBatch → BenchDefault "batch" value

/-- The default of a configuration: a bench section in which nothing is left out. -/
inductive SectionDefault : String → Content → Prop where
  | bench {messagesKey messages batchKey batch : Content} : messagesKey.text? = some "messages" →
      BenchDefault "messages" messages → batchKey.text? = some "batch" → BenchDefault "batch" batch →
      SectionDefault "bench" (.mapping [(messagesKey, messages), (batchKey, batch)])

theorem keyed_queue (slots : Nat → Content) : Keyed slots queueNames QueueDefault
    fun values => (QueueFields.of? values).bind fun fields => some fields.finish := by
  constructor
  case perm =>
    intro values values' perm
    simp only [QueueFields.of?, single_perm (perm "name" (by decide)), single_perm (perm "quantum_size" (by decide)),
      single_perm (perm "quantum_count" (by decide)), single_perm (perm "named" (by decide))]
  case default =>
    intro values values' name value default left_out given others
    cases default with
    | name said =>
      rw [Content.follow_of_read said] at given
      simp only [QueueFields.of?, left_out, given, others "quantum_size" (by decide),
        others "quantum_count" (by decide), others "named" (by decide)]
      simp [single_nil, said, QueueFields.finish, Option.bind_assoc]
    | named said =>
      rw [Content.follow_of_read said] at given
      simp only [QueueFields.of?, left_out, given, others "quantum_size" (by decide),
        others "quantum_count" (by decide), others "name" (by decide)]
      simp [single_nil, said, QueueFields.finish, Option.bind_assoc]
  case known =>
    intro name value default
    cases default <;> decide
  case twice =>
    intro values name known two
    rw [Option.bind_eq_none_iff]
    intro fields said
    obtain ⟨first, second, third, fourth⟩ := QueueFields.of?_eq_some_iff.1 said
    simp only [queueNames, List.mem_cons, List.not_mem_nil, or_false] at known
    rcases known with rfl | rfl | rfl | rfl <;> simp [single_eq_none_of_two_le _ two] at first second third fourth

theorem keyed_bench (slots : Nat → Content) : Keyed slots benchNames BenchDefault
    fun values => (BenchFields.of? values).bind fun fields => some fields.finish := by
  constructor
  case perm =>
    intro values values' perm
    simp only [BenchFields.of?, single_perm (perm "messages" (by decide)), single_perm (perm "batch" (by decide))]
  case default =>
    intro values values' name value default left_out given others
    cases default with
    | messages said =>
      rw [Content.follow_of_read said] at given
      simp only [BenchFields.of?, left_out, given, others "batch" (by decide)]
      simp [single_nil, said, BenchFields.finish, Option.bind_assoc]
    | batch said =>
      rw [Content.follow_of_read said] at given
      simp only [BenchFields.of?, left_out, given, others "messages" (by decide)]
      simp [single_nil, said, BenchFields.finish, Option.bind_assoc]
  case known =>
    intro name value default
    cases default <;> decide
  case twice =>
    intro values name known two
    rw [Option.bind_eq_none_iff]
    intro fields said
    obtain ⟨first, second⟩ := BenchFields.of?_eq_some_iff.1 said
    simp only [benchNames, List.mem_cons, List.not_mem_nil, or_false] at known
    rcases known with rfl | rfl <;> simp [single_eq_none_of_two_le _ two] at first second

/-- A bench section in which nothing is left out. -/
theorem bench?_of_defaults (slots : Nat → Content) {messagesKey messages batchKey batch : Content}
    (messages_named : messagesKey.text? = some "messages") (messages_default : BenchDefault "messages" messages)
    (batch_named : batchKey.text? = some "batch") (batch_default : BenchDefault "batch" batch) :
    bench? slots (.mapping [(messagesKey, messages), (batchKey, batch)]) = some defaultBench := by
  have empty : bench? slots (.mapping []) = some defaultBench := rfl
  have first : EntriesReworded benchNames BenchDefault [] [(messagesKey, messages)] :=
    @EntriesReworded.completed _ _ [] [] _ _ _ messages_named messages_default (by simp)
  have second : EntriesReworded benchNames BenchDefault [(messagesKey, messages)]
      [(messagesKey, messages), (batchKey, batch)] :=
    @EntriesReworded.completed _ _ [_] [] _ _ _ batch_named batch_default (by simp [messages_named])
  rw [← empty, bench?, first.ofValues?_eq (keyed_bench slots), second.ofValues?_eq (keyed_bench slots)]

theorem keyed_sections (slots : Nat → Content) : Keyed slots sectionNames SectionDefault
    fun values => (Sections.of? slots values).bind Sections.raw? := by
  constructor
  case perm =>
    intro values values' perm
    simp only [Sections.of?, single_perm (perm "queue" (by decide)), single_perm (perm "bench" (by decide))]
  case default =>
    intro values values' name value default left_out given others
    cases default with
    | bench messages_named messages batch_named batch =>
      have full := bench?_of_defaults slots messages_named messages batch_named batch
      simp only [Sections.of?, left_out, given, others "queue" (by decide), Content.follow]
      simp [single_nil, full, Sections.raw?, Option.bind_assoc]
  case known =>
    intro name value default
    cases default
    decide
  case twice =>
    intro values name known two
    rw [Option.bind_eq_none_iff]
    intro fields said
    obtain ⟨first, second⟩ := Sections.of?_eq_some_iff.1 said
    simp only [sectionNames, List.mem_cons, List.not_mem_nil, or_false] at known
    rcases known with rfl | rfl <;> simp [single_eq_none_of_two_le _ two] at first second

/-! ## Whole configurations -/

/-- A change of the entries of the section at a key. -/
inductive InSection (name : String) (Change : List (Content × Content) → List (Content × Content) → Prop) :
    Content → Content → Prop where
  | within {front back : List (Content × Content)} {key value : Content} {entries entries' : List (Content × Content)} :
      key.text? = some name → value.entries? = some entries → Change entries entries' →
      InSection name Change (.mapping (front ++ (key, value) :: back))
        (.mapping (front ++ (key, .mapping entries') :: back))

/-- A change of one section of a configuration, that does not change what the configuration means. -/
inductive Rewording : Content → Content → Prop where
  | sections {entries entries' : List (Content × Content)} :
      EntriesReworded sectionNames SectionDefault entries entries' → Rewording (.mapping entries) (.mapping entries')
  | queue {said said' : Content} : InSection "queue" (EntriesReworded queueNames QueueDefault) said said' →
      Rewording said said'
  | bench {said said' : Content} : InSection "bench" (EntriesReworded benchNames BenchDefault) said said' →
      Rewording said said'

inductive Doubling : Content → Content → Prop where
  | sections {entries entries' : List (Content × Content)} : EntriesDoubled sectionNames entries entries' →
      Doubling (.mapping entries) (.mapping entries')
  | queue {said said' : Content} : InSection "queue" (EntriesDoubled queueNames) said said' → Doubling said said'
  | bench {said said' : Content} : InSection "bench" (EntriesDoubled benchNames) said said' → Doubling said said'

theorem ofValues?_of_entries? {α : Type} {of? : (String → List Content) → Option α}
    (given : value.entries? = some entries) :
    ofValues? slots names of? (value.follow slots) = ofValues? slots names of? (.mapping entries) := by
  rw [Content.follow_of_entries? given, ofValues?, ofValues?, given]
  rfl

theorem single_values_replace {α : Type} {read : Content → Option α} (named : (key.follow slots).text? = some name)
    (same : name = other → read (value.follow slots) = read (value'.follow slots)) :
    single read (values slots (front ++ (key, value) :: back) other) =
      single read (values slots (front ++ (key, value') :: back) other) := by
  by_cases its_name : name = other
  · subst its_name
    rw [values_append, values_append, values_cons_of_named named, values_cons_of_named named]
    exact single_replace (same rfl)
  · rw [values_insert_of_ne named (Ne.symm its_name), values_insert_of_ne named (Ne.symm its_name)]

/-- Of the value of a section's key, only what is read from it counts. -/
theorem config?_replace (named : key.text? = some name) (known : name ∈ sectionNames)
    (queue : name = "queue" → queue? slots (value.follow slots) = queue? slots (value'.follow slots))
    (bench : name = "bench" → bench? slots (value.follow slots) = bench? slots (value'.follow slots)) :
    config? slots (.mapping (front ++ (key, value) :: back)) =
      config? slots (.mapping (front ++ (key, value') :: back)) := by
  have named := Content.text?_follow slots named
  simp only [config?, ofValues?, Content.entries?, Option.bind_some, orderly_insert named (.inl known), Sections.of?,
    single_values_replace named queue, single_values_replace named bench]

/-- **A rewording leaves a document to say the same configuration**, whatever aliases mean. -/
theorem Rewording.config?_eq {said said' : Content} (reworded : Rewording said said') (slots : Nat → Content) :
    config? slots (said.follow slots) = config? slots (said'.follow slots) := by
  cases reworded with
  | sections reworded => exact reworded.ofValues?_eq (keyed_sections slots)
  | queue within =>
    obtain @⟨front, back, key, value, entries, entries', named, given, reworded⟩ := within
    refine config?_replace named (by decide) (fun _ => ?_) fun absurd => by simp at absurd
    rw [queue?, ofValues?_of_entries? given]
    exact reworded.ofValues?_eq (keyed_queue slots)
  | bench within =>
    obtain @⟨front, back, key, value, entries, entries', named, given, reworded⟩ := within
    refine config?_replace named (by decide) (fun absurd => by simp at absurd) fun _ => ?_
    rw [bench?, ofValues?_of_entries? given]
    exact reworded.ofValues?_eq (keyed_bench slots)

theorem config?_of_rewordings {said said' : Content} (reworded : Relation.ReflTransGen Rewording said said')
    (slots : Nat → Content) : config? slots (said.follow slots) = config? slots (said'.follow slots) := by
  induction reworded with
  | refl => rfl
  | tail _ last ih => exact ih.trans (last.config?_eq slots)

theorem config?_eq_none (unreadable : single (queue? slots) (values slots entries "queue") = none ∨
    single (bench? slots) (values slots entries "bench") = none) : config? slots (.mapping entries) = none := by
  have no_sections : Sections.of? slots (values slots entries) = none := by
    rw [Option.eq_none_iff_forall_ne_some]
    intro fields said
    obtain ⟨queue, bench⟩ := Sections.of?_eq_some_iff.1 said
    rcases unreadable with unreadable | unreadable
    · simp [unreadable] at queue
    · simp [unreadable] at bench
  simp only [config?, ofValues?, Content.entries?, Option.bind_some, no_sections, Option.bind_none, ite_self]

theorem mem_values_of_named (named : key.text? = some name) :
    value.follow slots ∈ values slots (front ++ (key, value) :: back) name := by
  have named := Content.text?_follow slots named
  exact (values_insert_of_named named).mem_iff.2 List.mem_cons_self

/-- **A document in which a known key is doubled says no configuration**, whatever aliases mean. -/
theorem Doubling.config?_eq_none {said said' : Content} (doubled : Doubling said said') (slots : Nat → Content) :
    config? slots (said'.follow slots) = none := by
  cases doubled with
  | sections doubled => exact doubled.ofValues?_eq_none (keyed_sections slots)
  | queue within =>
    obtain @⟨front, back, key, value, entries, entries', named, given, doubled⟩ := within
    apply Config.config?_eq_none
    exact .inl (single_eq_none_of_mem (doubled.ofValues?_eq_none (keyed_queue slots)) (mem_values_of_named named))
  | bench within =>
    obtain @⟨front, back, key, value, entries, entries', named, given, doubled⟩ := within
    apply Config.config?_eq_none
    exact .inr (single_eq_none_of_mem (doubled.ofValues?_eq_none (keyed_bench slots)) (mem_values_of_named named))

/-! ## Loading -/

section

variable (slots slots')

theorem values_of_aliasFree (free : Content.entriesAliasFree entries = true) :
    values slots entries = values slots' entries := by
  have each := Content.entriesAliasFree_iff.1 free
  funext name
  rw [values, values]
  have keys : ∀ entry ∈ entries, (decide ((entry.1.follow slots).text? = some name)) =
      decide ((entry.1.follow slots').text? = some name) := by
    intro entry member
    rw [Content.follow_of_aliasFree (each entry member).1, Content.follow_of_aliasFree (each entry member).1]
  rw [List.filter_congr keys]
  apply List.map_congr_left
  intro entry member
  have free := (each entry (List.mem_filter.1 member).1).2
  rw [Content.follow_of_aliasFree free, Content.follow_of_aliasFree free]

theorem ofValues?_of_aliasFree {α : Type} {of? of?' : (String → List Content) → Option α} {content : Content}
    (free : content.aliasFree = true)
    (same : ∀ values, (∀ name, ∀ value ∈ values name, value.aliasFree = true) → of? values = of?' values) :
    ofValues? slots names of? content = ofValues? slots' names of?' content := by
  rw [ofValues?, ofValues?]
  cases given : content.entries? with
  | none => rfl
  | some entries =>
    have each_free := Content.aliasFree_of_entries? free given
    have each := Content.entriesAliasFree_iff.1 each_free
    have passable : orderly slots names entries = orderly slots' names entries := by
      rw [Bool.eq_iff_iff, orderly, orderly, List.all_eq_true, List.all_eq_true]
      refine forall₂_congr fun entry member => ?_
      rw [Content.follow_of_aliasFree (each entry member).1, Content.follow_of_aliasFree (each entry member).1]
    rw [Option.bind_some, Option.bind_some, passable, values_of_aliasFree slots slots' each_free, same]
    intro name value member
    obtain ⟨entry, found, rfl⟩ := List.mem_map.1 member
    have free := (each entry (List.mem_filter.1 found).1).2
    rwa [Content.follow_of_aliasFree free]

/-- Without aliases, it does not matter what they would mean. -/
theorem config?_of_aliasFree {said : Content} (free : said.aliasFree = true) :
    config? slots (said.follow slots) = config? slots' (said.follow slots') := by
  rw [Content.follow_of_aliasFree free, Content.follow_of_aliasFree free]
  refine ofValues?_of_aliasFree slots slots' free fun values free => ?_
  have queue : single (queue? slots) (values "queue") = single (queue? slots') (values "queue") :=
    single_congr fun value member =>
      ofValues?_of_aliasFree slots slots' (free _ value member) fun _ _ => rfl
  have bench : single (bench? slots) (values "bench") = single (bench? slots') (values "bench") :=
    single_congr fun value member =>
      ofValues?_of_aliasFree slots slots' (free _ value member) fun _ _ => rfl
  rw [Sections.of?, Sections.of?, queue, bench]

end

variable {text : String} {config : Config} {said : Content}

theorem ofText?_eq_some_iff : Content.ofText? text = some said ↔ (Document.ofText text).sound = true ∧
    ∃ root, (Document.ofText text).root = some root ∧ root.content = said := by
  rw [Content.ofText?]
  cases (Document.ofText text).sound <;> simp

theorem ofDocument_ofText_eq_ok_iff (stated : Content.ofText? text = some said) {raw : Raw} :
    Raw.ofDocument (Document.ofText text) = .ok raw ↔
      config? (Document.ofText text).slots (said.follow (Document.ofText text).slots) = some raw := by
  obtain ⟨sound, root, rooted, rfl⟩ := ofText?_eq_some_iff.1 stated
  simp [Raw.ofDocument_eq_ok_iff, sound, rooted]

theorem load_eq_ok_iff (stated : Content.ofText? text = some said) : load text = .ok config ↔
    ∃ raw, config? (Document.ofText text).slots (said.follow (Document.ofText text).slots) = some raw ∧
      validate raw = .ok config := by
  simp only [load, ofDocument, bind_eq_ok_iff, mapError_eq_ok_iff, ofDocument_ofText_eq_ok_iff stated]

/-- A text that says no configuration is refused for its shape. -/
theorem load_eq_error (stated : Content.ofText? text = some said)
    (none_said : config? (Document.ofText text).slots (said.follow (Document.ofText text).slots) = none) :
    ∃ error, load text = .error (.configParse (.shape error)) := by
  cases read : Raw.ofDocument (Document.ofText text) with
  | ok raw =>
    rw [ofDocument_ofText_eq_ok_iff stated, none_said] at read
    cases read
  | error error => exact ⟨error, by rw [load, ofDocument, read]; rfl⟩

/-- What is loaded is one document. -/
theorem exists_ofText?_of_load (loaded : load text = .ok config) : ∃ said, Content.ofText? text = some said := by
  obtain ⟨raw, read, _⟩ := bind_eq_ok_iff.1 loaded
  obtain ⟨sound, root, rooted, _⟩ := Raw.ofDocument_eq_ok_iff.1 (mapError_eq_ok_iff.1 read)
  exact ⟨root.content, ofText?_eq_some_iff.2 ⟨sound, root, rooted, rfl⟩⟩

/-- **Loading depends on the meaning only**: if a text without aliases is loaded, all texts that reword what it says are
loaded as the same configuration; and a text in which a known key has been doubled is refused. -/
theorem reworded_configuration_loads_alike :
    (∀ text config, load text = .ok config → ∃ said, Content.ofText? text = some said ∧ (said.aliasFree = true →
      ∀ text' said', Content.ofText? text' = some said' → Relation.ReflTransGen Rewording said said' →
        load text' = .ok config)) ∧
    ∀ text' said said', Content.ofText? text' = some said' → Doubling said said' →
      ∃ error, load text' = .error (.configParse (.shape error)) := by
  constructor
  · intro text config loaded
    obtain ⟨said, stated⟩ := exists_ofText?_of_load loaded
    refine ⟨said, stated, fun free text' said' stated' reworded => ?_⟩
    obtain ⟨raw, meant, checked⟩ := (load_eq_ok_iff stated).1 loaded
    rw [config?_of_aliasFree _ (Document.ofText text').slots free, config?_of_rewordings reworded] at meant
    exact (load_eq_ok_iff stated').2 ⟨raw, meant, checked⟩
  · intro text' said said' stated' doubled
    exact load_eq_error stated' (doubled.config?_eq_none _)

/-- Two sizes, the same in another order with a note and with all that was left out, and a size that is given twice. -/
theorem reworded_configuration_loads_alike_when_spelled_out :
    let text := "queue:\n  quantum_size: 4\n  quantum_count: 64\n"
    let reworded := "note: [a]\nbench:\n  messages: 1000000\n  batch: 16\nqueue:\n  named: false\n" ++
      "  quantum_count: 64\n  quantum_size: 4\n  name: shmq\n"
    let doubled := "queue:\n  quantum_size: 4\n  quantum_count: 64\n  quantum_size: 8\n"
    let config : Config := ⟨⟨"shmq", 4, 64, false⟩, ⟨1000000, 16⟩⟩
    load text = .ok config ∧ load reworded = .ok config ∧
      ∃ error, load doubled = .error (.configParse (.shape error)) := by
  intro text reworded doubled config
  have loaded : load text = .ok config := toOption_eq_some_iff.1 (by decide +kernel)
  obtain ⟨alike, refused⟩ := reworded_configuration_loads_alike
  obtain ⟨said, stated, loads⟩ := alike text config loaded
  let size := (Content.plain "quantum_size", Content.plain "4")
  let count := (Content.plain "quantum_count", Content.plain "64")
  let named := (Content.plain "named", Content.plain "false")
  let name := (Content.plain "name", Content.plain "shmq")
  let note := (Content.plain "note", Content.sequence [Content.plain "a"])
  let bench := (Content.plain "bench", Content.mapping
    [(Content.plain "messages", Content.plain "1000000"), (Content.plain "batch", Content.plain "16")])
  let queue := fun entries => (Content.plain "queue", Content.mapping entries)
  have computed : Content.ofText? text = some (.mapping [queue [size, count]]) := by decide +kernel
  cases Option.some.inj (stated.symm.trans computed)
  refine ⟨loaded, ?_, ?_⟩
  · apply loads (by decide) reworded (.mapping [note, bench, queue [named, count, size, name]]) (by decide +kernel)
    have first : Rewording (.mapping [queue [size, count]]) (.mapping [note, queue [size, count]]) :=
      .sections (@EntriesReworded.extended _ _ [] _ _ _ "note" rfl (by decide) rfl)
    have second : Rewording (.mapping [note, queue [size, count]])
        (.mapping [note, bench, queue [size, count]]) :=
      .sections (@EntriesReworded.completed _ _ [note] [queue [size, count]] _ _ "bench" rfl
        (.bench rfl (.messages (by decide)) rfl (.batch (by decide)))
        (by simp [note, queue, Content.text?_plain]))
    have third : Rewording (.mapping [note, bench, queue [size, count]])
        (.mapping [note, bench, queue [count, size]]) :=
      .queue (@InSection.within _ _ [note, bench] [] _ _ _ _ rfl rfl (.reordered (.swap _ _ _)))
    have fourth : Rewording (.mapping [note, bench, queue [count, size]])
        (.mapping [note, bench, queue [named, count, size]]) :=
      .queue (@InSection.within _ _ [note, bench] [] _ _ _ _ rfl rfl
        (@EntriesReworded.completed _ _ [] _ _ _ "named" rfl (.named (by decide))
          (by simp [size, count, Content.text?_plain])))
    have fifth : Rewording (.mapping [note, bench, queue [named, count, size]])
        (.mapping [note, bench, queue [named, count, size, name]]) :=
      .queue (@InSection.within _ _ [note, bench] [] _ _ _ _ rfl rfl
        (@EntriesReworded.completed _ _ [named, count, size] [] _ _ "name" rfl (.name (by decide))
          (by simp [size, count, named, Content.text?_plain])))
    exact .tail (.tail (.tail (.tail (.single first) second) third) fourth) fifth
  · refine refused doubled (.mapping [queue [size, count]])
      (.mapping [queue [size, count, (Content.plain "quantum_size", Content.plain "8")]]) (by decide +kernel)
      (.queue (@InSection.within _ _ [] [] _ _ _ _ rfl rfl ?_))
    exact @EntriesDoubled.doubled _ [size, count] [] _ _ "quantum_size" (by decide) rfl ⟨size, by simp, rfl⟩

end Config

end SharedRing
