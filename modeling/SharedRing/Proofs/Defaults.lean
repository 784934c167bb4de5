import SharedRing.Proofs.Configurations
import SharedRing.Proofs.Rewordings

/-!
# Configurations without a bench section

The bench section may be left out, or be empty, and then its defaults are filled in. The default batch is a constant,
though, and a batch is checked against the ring's size, so that a queue section which is accepted as such stands for a
configuration just if it asks for a ring of at least one default batch. A smaller ring is refused for a batch that
nobody has written (`queue_section_alone_loads_iff_batch_fits`).
-/

namespace SharedRing

open Yaml (Node Document Content)

namespace Config

/-- What a document says that has a queue section and no more, or besides it a bench section in which nothing is. -/
inductive HoldsOnlyQueue (queue : Content) : Content → Prop where
  | omitted {key : Content} : key.text? = some "queue" → HoldsOnlyQueue queue (.mapping [(key, queue)])
  | empty {key benchKey bench : Content} {entries : List (Content × Content)} : key.text? = some "queue" →
      benchKey.text? = some "bench" → bench.entries? = some [] → entries.Perm [(key, queue), (benchKey, bench)] →
      HoldsOnlyQueue queue (.mapping entries)

/-- What a queue section and the defaults make up. -/
def withDefaultBench (queue : QueueConfig) : Config := ⟨queue, ⟨defaultMessages, defaultBatch⟩⟩

variable {slots : Nat → Content} {entries : List (Content × Content)} {queue said : Content} {raw : RawQueue}
  {checked : QueueConfig}

/-! ## Filling in -/

theorem config?_of_values (bench : Option RawBench) (passable : orderly slots sectionNames entries = true)
    (queue_value : values slots entries "queue" = [queue]) (read : queue? slots queue = some raw)
    (bench_read : single (bench? slots) (values slots entries "bench") = some bench) :
    config? slots (.mapping entries) = some ⟨raw, bench.getD defaultBench⟩ := by
  have sections : Sections.of? slots (values slots entries) = some ⟨some raw, bench⟩ := by
    rw [Sections.of?_eq_some_iff, queue_value, single_singleton, read]
    exact ⟨rfl, bench_read⟩
  rw [config?, ofValues?_mapping_eq_some_iff, sections]
  exact ⟨passable, rfl⟩

theorem bench?_of_empty {bench : Content} (empty : bench.entries? = some []) :
    bench? slots (bench.follow slots) = some defaultBench := by
  rw [bench?, ofValues?_of_entries? empty]
  rfl

theorem HoldsOnlyQueue.config?_eq (only : HoldsOnlyQueue queue said)
    (read : queue? slots (queue.follow slots) = some raw) :
    config? slots (said.follow slots) = some ⟨raw, defaultBench⟩ := by
  cases only with
  | @omitted key named =>
    have named := Content.text?_follow slots named
    refine config?_of_values none ?_ ?_ read ?_
    · simp [orderly, named, sectionNames]
    · simp [values, named]
    · simp [single_nil, values, named]
  | @empty key benchKey bench entries named bench_named blank perm =>
    have named := Content.text?_follow slots named
    have bench_named := Content.text?_follow slots bench_named
    have in_order : EntriesReworded sectionNames SectionDefault entries [(key, queue), (benchKey, bench)] :=
      .reordered perm
    refine (in_order.ofValues?_eq (keyed_sections slots)).trans ?_
    refine config?_of_values (some defaultBench) ?_ ?_ read ?_
    · simp [orderly, named, bench_named, sectionNames]
    · simp [values, named, bench_named]
    · simp [values, named, bench_named, bench?_of_empty blank]

/-! ## Checking -/

theorem validateBench_default (queue : QueueConfig) : validateBench defaultBench queue =
    if defaultBatch ≤ queue.quantumCount then .ok ⟨defaultMessages, defaultBatch⟩
    else .error (.invalidValue "bench.batch" (toString defaultBatch) (.batchRange queue.quantumCount)) := by
  have some_sent : ¬ defaultMessages = 0 := by decide
  have some_taken : ¬ defaultBatch = 0 := by decide
  simp only [validateBench, defaultBench, some_sent, some_taken, false_or, ↓reduceIte]
  by_cases fits : defaultBatch ≤ queue.quantumCount
  · rw [if_pos fits, if_neg (Nat.not_lt.2 fits)]
  · rw [if_neg fits, if_pos (Nat.not_le.1 fits)]

/-- With the defaults for its bench section, a queue section that passes is refused just for the batch. -/
theorem validate_defaultBench (passes : validateQueue raw = .ok checked) : validate ⟨raw, defaultBench⟩ =
    if defaultBatch ≤ checked.quantumCount then .ok (withDefaultBench checked)
    else .error (.invalidValue "bench.batch" (toString defaultBatch) (.batchRange checked.quantumCount)) := by
  rw [validate, passes]
  simp only [bind, Except.bind, validateBench_default]
  by_cases fits : defaultBatch ≤ checked.quantumCount
  · rw [if_pos fits, if_pos fits]
    rfl
  · rw [if_neg fits, if_neg fits]

/-! ## Loading -/

variable {text : String}

/-- A queue section alone makes up a configuration with the default bench section, if that passes. -/
theorem HoldsOnlyQueue.load_eq (only : HoldsOnlyQueue queue said) (stated : Content.ofText? text = some said)
    (read : queue? (Document.ofText text).slots (queue.follow (Document.ofText text).slots) = some raw)
    (passes : validateQueue raw = .ok checked) :
    load text = if defaultBatch ≤ checked.quantumCount then .ok (withDefaultBench checked)
      else .error (.setting (.invalidValue "bench.batch" (toString defaultBatch) (.batchRange checked.quantumCount))) := by
  have whole : Raw.ofDocument (Document.ofText text) = .ok ⟨raw, defaultBench⟩ :=
    (ofDocument_ofText_eq_ok_iff stated).2 (only.config?_eq read)
  rw [load, ofDocument, whole, mapError_ok]
  show (validate ⟨raw, defaultBench⟩).mapError Error.setting = _
  rw [validate_defaultBench passes]
  split <;> rfl

theorem ofFile_toUTF8 (path text : String) : ofFile path (.bytes text.toUTF8) = load text := by
  have decoded : String.fromUTF8? text.toUTF8 = some text := by
    rw [String.fromUTF8?, dif_pos (show text.toUTF8.IsValidUTF8 from text.isValidUTF8)]
    rfl
  rw [ofFile, decoded]

end Config

/-- **The bench section may be left out just if the default batch fits into the ring.** Otherwise the text is refused,
and so are the commands, for a batch that it does not mention. -/
theorem queue_section_alone_loads_iff_batch_fits {text : String} {said : Content} {queue : Node}
    (stated : Content.ofText? text = some said) (only : Config.HoldsOnlyQueue queue.content said) {path : List String}
    {raw : Config.RawQueue} (read : Config.RawQueue.read (Document.ofText text) path queue = .ok raw)
    {checked : QueueConfig} (passes : Config.validateQueue raw = .ok checked) :
    let fits := Config.defaultBatch ≤ checked.quantumCount
    (fits → Config.load text = .ok (Config.withDefaultBench checked)) ∧
    (¬ fits → Config.load text = .error (.setting
      (.invalidValue "bench.batch" (toString Config.defaultBatch) (.batchRange checked.quantumCount)))) ∧
    ∀ (content : String → Config.FileContent) file, content file = .bytes text.toUTF8 →
      ((Invocation.outcomeOfArguments content ["validate", "--", file]).status = 0 ↔ fits) ∧
      ((Invocation.outcomeOfArguments content ["--config=" ++ file, "inspect"]).status = 0 ↔ fits) := by
  intro fits
  have load_eq := only.load_eq stated (Config.RawQueue.read_eq_ok_iff.1 read) passes
  have loads : fits → Config.load text = .ok (Config.withDefaultBench checked) := by
    intro enough
    rw [load_eq, if_pos enough]
  have refuses : ¬ fits → Config.load text = .error (.setting
      (.invalidValue "bench.batch" (toString Config.defaultBatch) (.batchRange checked.quantumCount))) := by
    intro small
    rw [load_eq, if_neg small]
  refine ⟨loads, refuses, ?_⟩
  intro content file held
  have of_file : (∃ config, Config.ofFile file (content file) = .ok config) ↔ fits := by
    rw [held, Config.ofFile_toUTF8]
    constructor
    · rintro ⟨config, loaded⟩
      by_contra small
      rw [refuses small] at loaded
      cases loaded
    · exact fun enough => ⟨_, loads enough⟩
  rw [Invocation.outcomeOfArguments, Invocation.ofArguments_validate, Invocation.outcomeOfArguments,
    Invocation.ofArguments_inspect]
  exact ⟨(Invocation.status_validate_eq_zero_iff _).trans of_file, Invocation.status_inspect_eq_zero_iff.trans of_file⟩

namespace Config

def wordSection (count : String) : Node :=
  let plain := fun text => Node.scalar Yaml.Mark.start ⟨text, .plain, none⟩
  .mapping Yaml.Mark.start [(plain "quantum_size", plain "8"), (plain "quantum_count", plain count)]

end Config

/-- A ring of just one default batch, with a bench section that is blank. -/
theorem queue_section_alone_loads_for_one_batch :
    let text := "queue:\n  quantum_size: 8\n  quantum_count: 16\nbench:\n"
    let config : Config := ⟨⟨"shmq", 8, 16, false⟩, ⟨1000000, 16⟩⟩
    let content := fun _ => Config.FileContent.bytes text.toUTF8
    Config.load text = .ok config ∧
      (Invocation.outcomeOfArguments content ["validate", "--", "ring.yaml"]).status = 0 ∧
      (Invocation.outcomeOfArguments content ["--config=ring.yaml", "inspect"]).status = 0 := by
  intro text config content
  have stated : Content.ofText? text = some (.mapping
      [(Content.plain "queue", (Config.wordSection "16").content), (Content.plain "bench", Content.plain "")]) := by
    decide +kernel
  have read : Config.RawQueue.read (Document.ofText text) ["queue"] (Config.wordSection "16") =
      .ok ⟨"shmq", some 8, some 16, false⟩ := toOption_eq_some_iff.1 (by decide +kernel)
  have passes : Config.validateQueue ⟨"shmq", some 8, some 16, false⟩ = .ok config.queue :=
    toOption_eq_some_iff.1 (by decide +kernel)
  obtain ⟨loads, -, commands⟩ :=
    queue_section_alone_loads_iff_batch_fits stated (.empty rfl rfl rfl (List.Perm.refl _)) read passes
  obtain ⟨validates, inspects⟩ := commands content "ring.yaml" rfl
  exact ⟨loads (by decide), validates.2 (by decide), inspects.2 (by decide)⟩

/-- A ring of eight words, which is a fine queue section, and no bench section. -/
theorem small_queue_section_alone_refused :
    let text := "queue:\n  quantum_size: 8\n  quantum_count: 8\n"
    let content := fun _ => Config.FileContent.bytes text.toUTF8
    Content.ofText? text = some (.mapping [(Content.plain "queue", (Config.wordSection "8").content)]) ∧
      (∃ raw, Config.RawQueue.read (Document.ofText text) ["queue"] (Config.wordSection "8") = .ok raw ∧
        Config.validateQueue raw = .ok ⟨"shmq", 8, 8, false⟩) ∧
      Config.load text = .error (.setting (.invalidValue "bench.batch" "16" (.batchRange 8))) ∧
      (Invocation.outcomeOfArguments content ["validate", "--", "ring.yaml"]).status = 1 ∧
      (Invocation.outcomeOfArguments content ["--config=ring.yaml", "inspect"]).status = 1 := by
  refine ⟨by decide +kernel, ⟨⟨"shmq", some 8, some 8, false⟩, ?_, ?_⟩, by decide +kernel, by decide +kernel,
    by decide +kernel⟩
  · exact toOption_eq_some_iff.1 (by decide +kernel)
  · exact toOption_eq_some_iff.1 (by decide +kernel)

end SharedRing
