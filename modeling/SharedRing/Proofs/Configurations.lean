import SharedRing.Command
import SharedRing.Proofs.Creations
import SharedRing.Proofs.Layouts
import SharedRing.Proofs.Roles

/-!
# An accepted configuration works all the way down

`Config.Accepted` states what a configuration has to be like, and `validate_eq_ok_iff` that the checks ask for
exactly this. The layout, the descriptor's validation, the windows, the names of segments and the ring check again,
each with bounds of its own, and none of them refuses what a configuration accepts (`works_of_accepted`). So nothing
but the configuration decides whether a file can be validated, or inspected (`accepted_configuration_works`).
-/

namespace SharedRing

namespace Config

/-! ## Accepted configurations -/

/-- A name that a configuration may give to its queue. -/
structure AcceptedName (name : String) : Prop where
  length_pos : 0 < name.utf8ByteSize
  length_le : name.utf8ByteSize ≤ maxNameLength
  no_slash : '/' ∉ name.toList
  no_nul : '\x00' ∉ name.toList

structure Accepted (config : Config) : Prop where
  name : AcceptedName config.queue.name
  size_pos : 0 < config.queue.quantumSize
  size_le : config.queue.quantumSize ≤ maxQuantumSize
  count_pos : 0 < config.queue.quantumCount
  total_le : config.queue.quantumSize * config.queue.quantumCount + QueueLayout.dataOffset ≤ maxOffset
  messages_pos : 0 < config.bench.messages
  batch_pos : 0 < config.bench.batch
  batch_le : config.bench.batch ≤ config.queue.quantumCount

def written (config : Config) : Raw :=
  { queue :=
      { name := config.queue.name
        quantumSize := some config.queue.quantumSize
        quantumCount := some config.queue.quantumCount
        named := config.queue.named }
    bench := { messages := config.bench.messages, batch := config.bench.batch } }

theorem checkName_eq_ok_iff (name : String) : checkName name = .ok () ↔ AcceptedName name := by
  have characters : (name.toList.any fun c => c = '/' || c = '\x00') = true ↔
      '/' ∈ name.toList ∨ '\x00' ∈ name.toList := by
    simp only [List.any_eq_true, Bool.or_eq_true, decide_eq_true_eq]
    constructor
    · rintro ⟨c, member, rfl | rfl⟩
      · exact .inl member
      · exact .inr member
    · rintro (member | member)
      · exact ⟨_, member, .inl rfl⟩
      · exact ⟨_, member, .inr rfl⟩
  unfold checkName
  by_cases length : name.utf8ByteSize = 0 ∨ maxNameLength < name.utf8ByteSize
  · rw [if_pos length]
    constructor
    · intro accepted
      cases accepted
    · rintro ⟨positive, le, -, -⟩
      omega
  · rw [if_neg length]
    by_cases forbidden : '/' ∈ name.toList ∨ '\x00' ∈ name.toList
    · rw [if_pos (characters.2 forbidden)]
      constructor
      · intro accepted
        cases accepted
      · rintro ⟨-, -, no_slash, no_nul⟩
        exact absurd forbidden (not_or.2 ⟨no_slash, no_nul⟩)
    · rw [if_neg (fun found => forbidden (characters.1 found))]
      rw [not_or] at forbidden
      exact iff_of_true rfl ⟨by omega, by omega, forbidden.1, forbidden.2⟩

theorem require_eq_ok_iff {field : String} {value : Option Nat} {n : Nat} :
    require field value = .ok n ↔ value = some n := by
  cases value <;> simp [require]

/-- What is asked of a geometry is that its quantum fits into a page and that there is a layout of it. -/
theorem checkGeometry_eq_ok_iff (quantumSize quantumCount : Nat) : checkGeometry quantumSize quantumCount = .ok () ↔
    quantumSize ≤ maxQuantumSize ∧ ∃ layout, QueueLayout.ofGeometry quantumSize quantumCount = .ok layout := by
  unfold checkGeometry
  by_cases size : quantumSize = 0 ∨ maxQuantumSize < quantumSize
  · rw [if_pos size]
    constructor
    · intro accepted
      cases accepted
    · rintro ⟨le, layout, made⟩
      obtain ⟨positive, _⟩ := QueueLayout.ofGeometry_eq_ok_iff.1 made
      omega
  · rw [if_neg size]
    by_cases count : quantumCount = 0
    · rw [if_pos count]
      constructor
      · intro accepted
        cases accepted
      · rintro ⟨_, layout, made⟩
        exact absurd count (QueueLayout.ofGeometry_eq_ok_iff.1 made).2.1
    · rw [if_neg count]
      have le : quantumSize ≤ maxQuantumSize := by omega
      cases QueueLayout.ofGeometry quantumSize quantumCount <;> simp [le]

theorem Accepted.exists_layout {config : Config} (accepted : config.Accepted) :
    ∃ layout, config.queue.layout = .ok layout :=
  ⟨_, QueueLayout.ofGeometry_eq_ok_iff.2
    ⟨Nat.ne_of_gt accepted.size_pos, Nat.ne_of_gt accepted.count_pos, accepted.total_le, rfl⟩⟩

theorem validateQueue_eq_ok_iff {raw : RawQueue} {queue : QueueConfig} : validateQueue raw = .ok queue ↔
    AcceptedName queue.name ∧ (queue.quantumSize ≤ maxQuantumSize ∧ ∃ layout, queue.layout = .ok layout) ∧
      raw = { name := queue.name, quantumSize := some queue.quantumSize, quantumCount := some queue.quantumCount,
              named := queue.named } := by
  simp only [validateQueue, bind_eq_ok_iff, require_eq_ok_iff, QueueConfig.layout, ← checkGeometry_eq_ok_iff]
  constructor
  · rintro ⟨_, name, size, given, count, given', _, geometry, same⟩
    cases same
    obtain ⟨name', _, _, named⟩ := raw
    subst given
    subst given'
    exact ⟨(checkName_eq_ok_iff _).1 name, geometry, rfl⟩
  · rintro ⟨name, geometry, rfl⟩
    exact ⟨(), (checkName_eq_ok_iff _).2 name, _, rfl, _, rfl, (), geometry, rfl⟩

theorem validateBench_eq_ok_iff {raw : RawBench} {queue : QueueConfig} {bench : BenchConfig} :
    validateBench raw queue = .ok bench ↔
      0 < bench.messages ∧ 0 < bench.batch ∧ bench.batch ≤ queue.quantumCount ∧
        raw = { messages := bench.messages, batch := bench.batch } := by
  obtain ⟨messages, batch⟩ := raw
  obtain ⟨messages', batch'⟩ := bench
  unfold validateBench
  by_cases none_sent : messages = 0
  · simp only [none_sent, ↓reduceIte, reduceCtorEq, false_iff, RawBench.mk.injEq]
    omega
  · by_cases range : batch = 0 ∨ queue.quantumCount < batch
    · simp only [none_sent, range, ↓reduceIte, reduceCtorEq, false_iff, RawBench.mk.injEq]
      omega
    · simp only [none_sent, range, ↓reduceIte, Except.ok.injEq, BenchConfig.mk.injEq, RawBench.mk.injEq]
      omega

/-- **Accepted is what is written in full and within all bounds.** -/
theorem validate_eq_ok_iff {raw : Raw} {config : Config} :
    validate raw = .ok config ↔ config.Accepted ∧ raw = config.written := by
  obtain ⟨rawQueue, rawBench⟩ := raw
  obtain ⟨queue, bench⟩ := config
  have parts : validate ⟨rawQueue, rawBench⟩ = .ok ⟨queue, bench⟩ ↔
      validateQueue rawQueue = .ok queue ∧ validateBench rawBench queue = .ok bench := by
    simp only [validate, bind_eq_ok_iff, pure, Except.pure, Except.ok.injEq, Config.mk.injEq]
    constructor
    · rintro ⟨_, first, _, second, rfl, rfl⟩
      exact ⟨first, second⟩
    · rintro ⟨first, second⟩
      exact ⟨_, first, _, second, rfl, rfl⟩
  rw [parts, validateQueue_eq_ok_iff, validateBench_eq_ok_iff]
  simp only [written, Raw.mk.injEq]
  constructor
  · rintro ⟨⟨name, ⟨size_le, layout, made⟩, rfl⟩, messages, batch, batch_le, rfl⟩
    obtain ⟨size, count, total, _⟩ := QueueLayout.ofGeometry_eq_ok_iff.1 made
    exact ⟨⟨name, Nat.pos_of_ne_zero size, size_le, Nat.pos_of_ne_zero count, total, messages, batch, batch_le⟩, rfl,
      rfl⟩
  · rintro ⟨accepted, rfl, rfl⟩
    exact ⟨⟨accepted.name, ⟨accepted.size_le, accepted.exists_layout⟩, rfl⟩, accepted.messages_pos,
      accepted.batch_pos, accepted.batch_le, rfl⟩

/-- What is loaded has been checked. -/
theorem accepted_of_load {text : String} {config : Config} (loaded : load text = .ok config) : config.Accepted := by
  obtain ⟨raw, _, checked⟩ := bind_eq_ok_iff.1 loaded
  exact (validate_eq_ok_iff.1 (mapError_eq_ok_iff.1 checked)).1

/-- What is read from a file has been loaded from its text. -/
theorem accepted_of_ofFile {path : String} {content : FileContent} {config : Config}
    (read : ofFile path content = .ok config) : config.Accepted := by
  cases content with
  | missing => cases read
  | directory => cases read
  | bytes data =>
    simp only [ofFile] at read
    split at read
    · exact accepted_of_load read
    · cases read

/-! ## What it is used for -/

/-- **A name that is accepted is one for a segment**, named or not. -/
theorem AcceptedName.checks {name : String} (accepted : AcceptedName name) :
    QueueSegment.checkName name = .ok () ∧ QueueSegment.checkLabel name = .ok () := by
  have nul : ∀ start, QueueSegment.checkNul start name = .ok () := by
    intro start
    simp [QueueSegment.checkNul, accepted.no_nul]
  have nonempty : name.isEmpty = false := by
    rw [String.isEmpty, beq_eq_false_iff_ne]
    exact Nat.ne_of_gt accepted.length_pos
  refine ⟨?_, nul 0⟩
  simp [QueueSegment.checkName, nonempty, accepted.no_slash, nul]

theorem AcceptedName.create_ne_name {name : String} (accepted : AcceptedName name) (system : System) (named : Bool)
    (layout : QueueLayout) (fault : NameFault) :
    (QueueSegment.create system named name layout).2 ≠ .error (.createFailed name (.name fault)) := by
  obtain ⟨check, label⟩ := accepted.checks
  have other : ∀ fault, Creation.openObject system named name ≠ .error (.name fault) := by
    intro fault
    unfold Creation.openObject
    cases named with
    | true =>
      simp only [↓reduceIte, check]
      cases system.makeNamed name with
      | ok opened => simp
      | error errno => cases errno <;> simp
    | false =>
      simp only [Bool.false_eq_true, ↓reduceIte, label]
      cases system.makeAnonymous name <;> simp
  rw [QueueSegment.create_eq]
  cases made : Creation.openObject system named name with
  | error fault' =>
    intro same
    obtain ⟨-, rfl⟩ := SharedMemoryError.createFailed.inj (Except.error.inj same)
    exact other fault made
  | ok opened => cases system.allows layout.totalSize <;> simp

/-- A batch of an accepted configuration can be written to a queue whose counters are zero. -/
theorem Accepted.write_batch {config : Config} (accepted : config.Accepted) {layout : QueueLayout}
    (made : config.queue.layout = .ok layout) {objects : Int → Nat} {fd : Int} {queue : MessageQueue}
    (opened : MessageQueue.OpenedOn objects (layout.descriptor fd) queue) {memory : Memory}
    (read_zero : memory.word (MessageQueue.ringOf objects (layout.descriptor fd)).readCounter = 0)
    (write_zero : memory.word (MessageQueue.ringOf objects (layout.descriptor fd)).writeCounter = 0)
    {elements : List Element} (batch : elements.length = config.bench.batch) :
    ((queue.write elements).run memory).1 = true := by
  obtain ⟨descriptor_accepted, ring_eq⟩ := opened.accepted_and_ring_eq
  obtain ⟨-, -, -, layout_eq⟩ := QueueLayout.ofGeometry_eq_ok_iff.1 made
  have count_eq : layout.quantumCount = config.queue.quantumCount := by rw [layout_eq]
  have le : config.bench.batch * queue.element.size ≤ (layout.descriptor fd).ringBytes := by
    rw [Nat.mul_comm, ← descriptor_accepted.size_eq]
    apply Nat.mul_le_mul_left
    rw [QueueLayout.descriptor, count_eq]
    exact accepted.batch_le
  have room : (queue.element.encodeAll elements).length ≤ (layout.descriptor fd).ringBytes -
      (MessageQueue.ringOf objects (layout.descriptor fd)).unread memory := by
    rw [Ring.unread, read_zero, write_zero, ElementType.length_encodeAll, batch]
    exact le
  obtain ⟨after, ran, _⟩ :=
    Ring.run_write (MessageQueue.separate_layout _ _ _) descriptor_accepted.ringBytes_pos room
  rw [MessageQueue.write, ring_eq, ran]

/-- What all checks further down make of a configuration with a layout. -/
structure Works (config : Config) (layout : QueueLayout) : Prop where
  descriptor : ∀ fd, 0 ≤ fd → (layout.descriptor fd).validate config.queue.quantumSize = .ok ()
  windows : ∀ page, 0 < page → ∀ grantor ∈ layout.grantors, grantor.window page = .ok (grantor.pages page)
  /-- The name passes as that of a named object and as the label of an anonymous one. -/
  checkName : QueueSegment.checkName config.queue.name = .ok ()
  checkLabel : QueueSegment.checkLabel config.queue.name = .ok ()
  segment : ∀ system named fault, (QueueSegment.create system named config.queue.name layout).2 ≠
    .error (.createFailed config.queue.name (.name fault))
  queue : ∀ element : ElementType, element.size = config.queue.quantumSize → ∀ objects fd, 0 ≤ fd →
    ∃ queue, MessageQueue.OpenedOn objects (layout.descriptor fd) queue ∧ queue.element = element
  /-- and while nothing has been written, a batch can be written to any of them. -/
  write : ∀ objects fd queue, MessageQueue.OpenedOn objects (layout.descriptor fd) queue →
    let ring := MessageQueue.ringOf objects (layout.descriptor fd)
    ∀ memory, memory.word ring.readCounter = 0 → memory.word ring.writeCounter = 0 →
      ∀ elements, elements.length = config.bench.batch → ((queue.write elements).run memory).1 = true

theorem works_of_accepted {config : Config} (accepted : config.Accepted) {layout : QueueLayout}
    (made : config.queue.layout = .ok layout) : config.Works layout := by
  obtain ⟨representable, size_eq⟩ := QueueLayout.representable_of_ofGeometry made
  obtain ⟨checkName, checkLabel⟩ := accepted.name.checks
  have descriptor : ∀ fd, 0 ≤ fd → (layout.descriptor fd).validate config.queue.quantumSize = .ok () := by
    intro fd nonneg
    exact (QueueLayout.validate_descriptor_iff representable fd _).2 ⟨nonneg, size_eq.symm⟩
  constructor
  case descriptor => exact descriptor
  case checkName => exact checkName
  case checkLabel => exact checkLabel
  case windows =>
    intro page positive grantor member
    apply Grantor.window_eq_pages positive
    exact Nat.le_trans (QueueLayout.grantor_end_le member) representable.total_le
  case segment =>
    intro system named
    exact accepted.name.create_ne_name system named layout
  case queue =>
    intro element size objects fd nonneg
    apply MessageQueue.exists_openedOn
    rw [size]
    exact descriptor fd nonneg
  case write =>
    intro objects fd queue opened ring memory read_zero write_zero elements batch
    exact accepted.write_batch made opened read_zero write_zero batch

end Config

/-! ## Commands -/

namespace Command

theorem layout_eq_ok_iff {config : Config} {layout : QueueLayout} :
    Command.layout config = .ok layout ↔ config.queue.layout = .ok layout :=
  mapError_eq_ok_iff

/-- Slots are shown if each of them has a window. -/
theorem exists_slotLines {page : Nat} {rows : List (String × Grantor)}
    (windows : ∀ row ∈ rows, ∃ window, row.2.window page = .ok window) (slot : Nat) :
    ∃ lines, slotLines page slot rows = .ok lines := by
  induction rows generalizing slot with
  | nil => exact ⟨[], rfl⟩
  | cons row rest ih =>
    obtain ⟨window, windowed⟩ := windows row List.mem_cons_self
    obtain ⟨lines, shown⟩ := ih (fun other member => windows other (List.mem_cons_of_mem _ member)) (slot + 1)
    exact ⟨_, by rw [slotLines, windowed, mapError_ok, shown]; rfl⟩

variable {loaded : Except Error Config}

/-- **A configuration can be shown exactly if it has been loaded.** -/
theorem validateLines_isOk_iff (checked : ∀ config, loaded = .ok config → config.Accepted) :
    (∃ lines, validateLines loaded = .ok lines) ↔ ∃ config, loaded = .ok config := by
  constructor
  · rintro ⟨lines, shown⟩
    obtain ⟨config, found, _⟩ := bind_eq_ok_iff.1 shown
    exact ⟨config, mapError_eq_ok_iff.1 found⟩
  · rintro ⟨config, rfl⟩
    obtain ⟨layout, made⟩ := (checked config rfl).exists_layout
    exact ⟨_, by rw [validateLines, mapError_ok]; simp only [bind, Except.bind, layout_eq_ok_iff.2 made]; rfl⟩

theorem inspectLines_isOk_iff {page : Nat} (positive : 0 < page)
    (checked : ∀ config, loaded = .ok config → config.Accepted) :
    (∃ lines, inspectLines page loaded = .ok lines) ↔ ∃ config, loaded = .ok config := by
  constructor
  · rintro ⟨lines, shown⟩
    obtain ⟨config, found, _⟩ := bind_eq_ok_iff.1 shown
    exact ⟨config, mapError_eq_ok_iff.1 found⟩
  · rintro ⟨config, rfl⟩
    have accepted := checked config rfl
    obtain ⟨layout, made⟩ := accepted.exists_layout
    have works := Config.works_of_accepted accepted made
    have windows : ∀ row ∈ roles.zip layout.grantors, ∃ window, row.2.window page = .ok window := by
      intro row member
      exact ⟨_, works.windows page positive row.2 (List.of_mem_zip member).2⟩
    obtain ⟨lines, shown⟩ := exists_slotLines windows 0
    exact ⟨_, by
      rw [inspectLines, mapError_ok]
      simp only [bind, Except.bind, layout_eq_ok_iff.2 made, shown]
      rfl⟩

end Command

theorem Outcome.status_ofResult_eq_zero_iff (result : Except Failure (List String)) :
    (Outcome.ofResult result).status = 0 ↔ ∃ lines, result = .ok lines := by
  cases result with
  | ok lines => simp [ofResult]
  | error failure => cases failure <;> simp [ofResult, Failure.status]

namespace Invocation

theorem ofArguments_validate (file : String) :
    ofArguments ["validate", "--", file] = some (.run defaultConfig (.validate file)) := by
  rfl

theorem ofArguments_inspect (file : String) :
    ofArguments ["--config=" ++ file, "inspect"] = some (.run file .inspect) := by
  have known : generalFlags.find? (·.word = "config") = some .config := by decide
  have option : argumentItems generalFlags ("--config=" ++ file) ["inspect"] = ([.value .config file], none) := by
    simp [argumentItems, wordItems, known, Flag.hasValue]
  have no_separator : "--config=" ++ file ≠ "--" := by
    intro same
    have characters := congrArg String.toList same
    simp at characters
  rw [ofArguments, items, if_neg no_separator, option]
  rfl

variable {content : String → Config.FileContent} {file : String}

theorem status_validate_eq_zero_iff (config : String) :
    ((run config (.validate file)).outcome content).status = 0 ↔
      ∃ loaded, Config.ofFile file (content file) = .ok loaded := by
  rw [outcome, Outcome.status_ofResult_eq_zero_iff]
  apply Command.validateLines_isOk_iff
  intro loaded read
  exact Config.accepted_of_ofFile read

theorem status_inspect_eq_zero_iff :
    ((run file .inspect).outcome content).status = 0 ↔ ∃ loaded, Config.ofFile file (content file) = .ok loaded := by
  rw [outcome, Outcome.status_ofResult_eq_zero_iff]
  apply Command.inspectLines_isOk_iff (by decide)
  intro loaded read
  exact Config.accepted_of_ofFile read

end Invocation

/-- **An accepted configuration works all the way down**: there is a layout, its descriptor passes, its windows are
computed, segments take its name, and its batch fits into the empty ring. So validating a file and inspecting it
succeed alike, exactly if the file can be loaded; there are arguments for both, whatever the file is called. -/
theorem accepted_configuration_works :
    (∀ text config, Config.load text = .ok config →
      ∃ layout, config.queue.layout = .ok layout ∧ config.Works layout) ∧
    ∀ (content : String → Config.FileContent) file,
      let loads := ∃ config, Config.ofFile file (content file) = .ok config
      (∀ arguments config, Invocation.ofArguments arguments = some (.run config (.validate file)) →
        ((Invocation.outcomeOfArguments content arguments).status = 0 ↔ loads)) ∧
      (∀ arguments, Invocation.ofArguments arguments = some (.run file .inspect) →
        ((Invocation.outcomeOfArguments content arguments).status = 0 ↔ loads)) ∧
      Invocation.ofArguments ["validate", "--", file] = some (.run defaultConfig (.validate file)) ∧
      Invocation.ofArguments ["--config=" ++ file, "inspect"] = some (.run file .inspect) := by
  constructor
  · intro text config loaded
    have accepted := Config.accepted_of_load loaded
    obtain ⟨layout, made⟩ := accepted.exists_layout
    exact ⟨layout, made, Config.works_of_accepted accepted made⟩
  · intro content file loads
    refine ⟨?_, ?_, Invocation.ofArguments_validate file, Invocation.ofArguments_inspect file⟩
    · intro arguments config understood
      rw [Invocation.outcomeOfArguments, understood]
      exact Invocation.status_validate_eq_zero_iff config
    · intro arguments understood
      rw [Invocation.outcomeOfArguments, understood]
      exact Invocation.status_inspect_eq_zero_iff

/-- A ring of one page, and that page as a batch. -/
theorem accepted_configuration_works_for_one_page :
    let text := "queue:\n  name: ring\n  quantum_size: 4096\n  quantum_count: 1\nbench:\n  batch: 1\n"
    let content := fun _ => Config.FileContent.bytes text.toUTF8
    let config : Config := ⟨⟨"ring", 4096, 1, false⟩, ⟨1000000, 1⟩⟩
    Config.load text = .ok config ∧ (∃ layout, config.queue.layout = .ok layout ∧ config.Works layout) ∧
      (Invocation.outcomeOfArguments content ["validate", "--", "ring.yaml"]).status = 0 ∧
      (Invocation.outcomeOfArguments content ["--config=ring.yaml", "inspect"]).status = 0 := by
  intro text content config
  have loaded : Config.load text = .ok config := toOption_eq_some_iff.1 (by decide +kernel)
  have read : Config.ofFile "ring.yaml" (content "ring.yaml") = .ok config :=
    toOption_eq_some_iff.1 (by decide +kernel)
  obtain ⟨works, commands⟩ := accepted_configuration_works
  obtain ⟨validates, inspects, validate, inspect⟩ := commands content "ring.yaml"
  exact ⟨loaded, works text config loaded, (validates _ _ validate).2 ⟨config, read⟩,
    (inspects _ inspect).2 ⟨config, read⟩⟩

end SharedRing
