import SharedRing.Proofs.Configurations
import SharedRing.Proofs.Transfers

/-!
# A measurement delivers everything in order and never gets stuck

A measurement makes a new segment and opens both sides of its queue. Its counters are zero and its batch fits
into its ring, so the two sides start in step (`inStep_of_prepare`) and stay so, whatever the order of their calls
(`bench_delivers_in_order`). With the two taking turns it ends, and prints the counters that it should
(`benchLines_of_prepare`).
-/

namespace SharedRing

/-! ## A prepared measurement -/

theorem Config.batch_of_validate {raw : Config.Raw} {config : Config} (accepted : Config.validate raw = .ok config) :
    0 < config.bench.batch ∧ config.bench.batch ≤ config.queue.quantumCount := by
  obtain ⟨within, -⟩ := Config.validate_eq_ok_iff.1 accepted
  exact ⟨within.batch_pos, within.batch_le⟩

namespace Transfer

theorem openQueues_eq_ok {system : System} {descriptor : RegionDescriptor} {source sink : MessageQueue}
    (opened : openQueues pageSize (fun _ => system.request) descriptor = .ok (source, sink)) :
    descriptor.quantumSize = 8 ∧ (source.element = .word ∧ source.ring = some (MessageQueue.ringOf system.objects descriptor)) ∧
      sink.element = .word ∧ sink.ring = some (MessageQueue.ringOf system.objects descriptor) := by
  obtain ⟨source', first, rest⟩ := bind_eq_ok_iff.1 opened
  obtain ⟨sink', second, same⟩ := bind_eq_ok_iff.1 rest
  cases same
  have side : ∀ queue, MessageQueue.ofDescriptor? pageSize (fun _ => system.request) .word descriptor = .ok queue →
      descriptor.quantumSize = 8 ∧ queue.element = .word ∧
        queue.ring = some (MessageQueue.ringOf system.objects descriptor) := by
    intro queue reported
    obtain ⟨made, valid⟩ := MessageQueue.ofDescriptor?_eq_ok_iff.1 reported
    have element_eq := (MessageQueue.ofDescriptor_eq_ok made).1
    obtain ⟨accepted, ring_eq⟩ :=
      (MessageQueue.openedOn_ofDescriptor (by decide) system.honest_request made valid).accepted_and_ring_eq
    rw [element_eq] at accepted
    exact ⟨accepted.size_eq, element_eq, ring_eq⟩
  exact ⟨(side source first).1, (side source first).2, (side sink second).2⟩

end Transfer

namespace Command

variable {system created : System} {config : Config} {total : Nat} {segment : QueueSegment} {transfer : Transfer}

theorem prepare_eq_ok (prepared : prepare system config total = .ok (created, segment, transfer)) :
    QueueSegment.ofConfig system config.queue = (created, .ok segment) ∧ ∃ source sink,
      Transfer.openQueues pageSize (fun _ => created.request) segment.descriptor = .ok (source, sink) ∧
      transfer = .start source sink 0 total config.bench.batch config.bench.batch true := by
  unfold prepare at prepared
  by_cases size : config.queue.quantumSize = messageSize
  · simp only [size, ne_eq, not_true_eq_false, ↓reduceIte] at prepared
    rcases outcome : QueueSegment.ofConfig system config.queue with ⟨after, ⟨error⟩ | ⟨made⟩⟩
    · rw [outcome] at prepared
      cases prepared
    · rw [outcome] at prepared
      obtain ⟨_, same, rest⟩ := bind_eq_ok_iff.1 prepared
      cases same
      split at rest
      · cases rest
      · cases rest
      · rename_i source sink opened
        cases rest
        exact ⟨rfl, source, sink, opened, rfl⟩
  · simp [size, throw, throwThe, MonadExceptOf.throw, bind, Except.bind] at prepared

theorem create_of_ofConfig {queue : QueueConfig} (made : QueueSegment.ofConfig system queue = (created, .ok segment)) :
    ∃ layout, QueueLayout.ofGeometry queue.quantumSize queue.quantumCount = .ok layout ∧
      QueueSegment.create system queue.named queue.name layout = (created, .ok segment) := by
  unfold QueueSegment.ofConfig at made
  split at made
  · rename_i layout geometry
    exact ⟨layout, geometry, made⟩
  · cases made

/-- **What is prepared**: a new segment with zeroed counters, and two sides that are in step on its ring. -/
theorem inStep_of_prepare (prepared : prepare system config total = .ok (created, segment, transfer)) :
    let ring := MessageQueue.ringOf created.objects segment.descriptor
    ring.Sized 8 config.queue.quantumCount ∧
      transfer.InStep ring 0 total config.bench.batch created.memory ∧ transfer.consumer.tally.received = 0 ∧
      ∃ object, created.object? segment.fd = some object ∧ segment.layout.totalSize ≤ created.length object ∧
        ring.readCounter = ⟨object, QueueLayout.readCounterOffset⟩ ∧
        ring.writeCounter = ⟨object, QueueLayout.writeCounterOffset⟩ := by
  obtain ⟨configured, source, sink, opened, rfl⟩ := prepare_eq_ok prepared
  obtain ⟨layout, geometry, made⟩ := create_of_ofConfig configured
  obtain ⟨_, count, _, layout_eq⟩ := QueueLayout.ofGeometry_eq_ok_iff.1 geometry
  obtain ⟨same, found, read_zero, write_zero⟩ := QueueSegment.create_zeroed made
  have long := (QueueSegment.create_eq_ok made).2
  subst same
  obtain ⟨size_eq, source_on, sink_on⟩ := Transfer.openQueues_eq_ok opened
  have object_eq := System.objects_eq found
  have read_place : (MessageQueue.ringOf created.objects segment.descriptor).readCounter =
      ⟨system.lengths.length, QueueLayout.readCounterOffset⟩ := congrArg (Address.mk · _) object_eq
  have write_place : (MessageQueue.ringOf created.objects segment.descriptor).writeCounter =
      ⟨system.lengths.length, QueueLayout.writeCounterOffset⟩ := congrArg (Address.mk · _) object_eq
  have count_eq : segment.layout.quantumCount = config.queue.quantumCount := by rw [layout_eq]
  intro ring
  refine ⟨⟨MessageQueue.separate_layout _ _ _, by decide, Nat.pos_of_ne_zero count, ?_⟩, ?_, rfl,
    system.lengths.length, found, Nat.le_of_eq long.symm, read_place, write_place⟩
  · change segment.descriptor.quantumSize * segment.layout.quantumCount = _
    rw [size_eq, count_eq]
  · refine ⟨⟨source_on, sink_on, ⟨rfl, rfl⟩, ⟨rfl, rfl⟩, ⟨rfl, rfl⟩⟩, .zero _ _, .zero _ _, Nat.le_refl _, rfl, ?_⟩
    exact Ring.streams_nil (by rw [read_place]; exact read_zero) (by rw [write_place]; exact write_zero)

/-- When both sides have finished, both counters are at the run's end. -/
theorem final_counters (prepared : prepare system config total = .ok (created, segment, transfer)) {ended : Transfer}
    {memory : Memory} (inStep : ended.InStep (MessageQueue.ringOf created.objects segment.descriptor) 0 total
      config.bench.batch memory) (done : ended.isDone = true) :
    segment.readCounter { created with memory } = .ok (.ofNat (8 * total)) ∧
      segment.writeCounter { created with memory } = .ok (.ofNat (8 * total)) := by
  obtain ⟨_, _, _, object, found, long, read_place, write_place⟩ := inStep_of_prepare prepared
  rw [inStep.isDone_eq, decide_eq_true_iff] at done
  have sent_le := inStep.sent.le
  have behind := inStep.behind
  have nothing : ended.ahead = 0 := by rw [Transfer.ahead]; omega
  have read_eq := inStep.streams.read_eq
  have write_eq := inStep.streams.write_eq
  rw [length_encodeAll_wordsOfRun, nothing, done, Nat.mul_zero, Nat.add_zero, write_place] at write_eq
  rw [done, read_place] at read_eq
  have within : ∀ offset, offset = QueueLayout.readCounterOffset ∨ offset = QueueLayout.writeCounterOffset →
      offset + counterSize ≤ System.length { created with memory } object := fun offset counter =>
    Nat.le_trans (segment.layout.counter_le_totalSize counter) long
  have known : System.object? { created with memory } segment.fd = some object := found
  rw [QueueSegment.readCounter, QueueSegment.writeCounter, QueueSegment.counter_eq_word known (within _ (.inl rfl)),
    QueueSegment.counter_eq_word known (within _ (.inr rfl))]
  exact ⟨congrArg Except.ok read_eq, congrArg Except.ok write_eq⟩

/-- **Whatever the order of their calls, the two sides pass every word in order and never get stuck.** After any
schedule the consumer has seen the numbers from zero on, as many as it has counted, and none in another's place;
if one side has not finished, the next call of one of them succeeds, and a call that succeeds leaves less to do; and
no step of the next turn of either loop leaves the words or the buffer. When both have finished, all numbers have been
seen and both counters have moved on by all their bytes. -/
theorem bench_delivers_in_order {raw : Config.Raw} (accepted : Config.validate raw = .ok config)
    (small : 8 * total < wordLimit) (prepared : prepare system config total = .ok (created, segment, transfer))
    (schedule : List Transfer.Side) :
    let (ended, after) := created.perform (transfer.calls schedule)
    let seen := transfer.seen created.memory schedule
    (seen = (List.range ended.consumer.tally.received).map (fun i => .integer i) ∧
      ended.consumer.tally.misplaced = none) ∧
    (ended.isDone = false → ended.CanSend after.memory ∨ ended.CanReceive after.memory) ∧
    ((ended.CanSend after.memory → (after.perform ended.pollProducer).1.remaining < ended.remaining) ∧
      (ended.CanReceive after.memory → (after.perform ended.pollConsumer).1.remaining < ended.remaining)) ∧
    (ended.producer.checkedPoll.run = .ok <$> ended.producer.poll ∧
      ended.consumer.checkedPoll.run = .ok <$> ended.consumer.poll) ∧
    (ended.isDone = true → ended.consumer.tally.received = total ∧
      segment.readCounter after = .ok (.ofNat (8 * total)) ∧ segment.writeCounter after = .ok (.ofNat (8 * total))) := by
  obtain ⟨positive, fits⟩ := Config.batch_of_validate accepted
  obtain ⟨sized, start, nothing, _⟩ := inStep_of_prepare prepared
  obtain ⟨inStep, continues⟩ := start.calls sized small positive schedule
  rw [nothing] at continues
  rw [System.perform_eq]
  have received_le := inStep.received.le
  have limit : total ≤ wordLimit := by omega
  obtain ⟨_, _, sends, _⟩ := inStep.pollProducer sized small positive
  obtain ⟨_, _, receives, _⟩ := inStep.pollConsumer sized positive
  refine ⟨⟨?_, ?_⟩, inStep.ready sized small fits, ⟨sends, receives⟩, ⟨?_, ?_⟩,
    fun done => ⟨?_, final_counters prepared inStep done⟩⟩
  · rw [← wordsOfRun_zero (Nat.le_trans received_le limit)]
    exact continues
  · exact inStep.misplaced
  · exact Producer.run_checkedPoll (inStep.totals.1.symm ▸ inStep.sent.le) (by rw [inStep.totals.1]; omega)
  · exact Consumer.run_checkedPoll (inStep.totals.2.symm ▸ received_le) (by rw [inStep.totals.2]; omega)
  · rwa [inStep.isDone_eq, decide_eq_true_iff] at done

/-- Two of five words are in a ring of three, in batches of two: a third batch would not fit, and so the consumer
can go on, and gets on. -/
theorem bench_delivers_in_order_when_full :
    let config : Config :=
      { queue := { name := "ring", quantumSize := 8, quantumCount := 3, named := false }
        bench := { messages := 5, batch := 2 } }
    ∃ created segment transfer, prepare .empty config 5 = .ok (created, segment, transfer) ∧
      let (ended, after) := created.perform (transfer.calls [.consumer, .producer, .producer])
      transfer.seen created.memory [.consumer, .producer, .producer] =
        (List.range ended.consumer.tally.received).map (fun i => .integer i) ∧
      (ended.isDone = false → ended.CanSend after.memory ∨ ended.CanReceive after.memory) ∧
      (ended.CanReceive after.memory → (after.perform ended.pollConsumer).1.remaining < ended.remaining) := by
  intro config
  have accepted : Config.validate
      { queue := { name := "ring", quantumSize := some 8, quantumCount := some 3, named := false }
        bench := { messages := 5, batch := 2 } } = .ok config := by decide +kernel
  have succeeds : (prepare .empty config 5).toOption.isSome = true := by decide +kernel
  obtain ⟨⟨created, segment, transfer⟩, found⟩ := Option.isSome_iff_exists.1 succeeds
  have prepared := toOption_eq_some_iff.1 found
  obtain ⟨⟨seen, _⟩, ready, ⟨_, receives⟩, _⟩ :=
    bench_delivers_in_order accepted (by decide) prepared [.consumer, .producer, .producer]
  exact ⟨created, segment, transfer, prepared, seen, ready, receives⟩

/-- **A measurement that is prepared succeeds**: with the two sides taking turns it ends, and it prints that all
messages have been delivered in order. -/
theorem benchLines_of_prepare {raw : Config.Raw} (accepted : Config.validate raw = .ok config) (messages : Option Nat)
    (small : 8 * messages.getD config.bench.messages < wordLimit)
    (prepared : prepare system config (messages.getD config.bench.messages) = .ok (created, segment, transfer)) :
    let total := messages.getD config.bench.messages
    let counter := UInt64.ofNat (8 * total)
    benchLines system messages (.ok config) = .ok [
      s!"✓ {total} messages delivered in order",
      s!"  Final counters:  read={counter} write={counter}"] := by
  intro total counter
  obtain ⟨positive, fits⟩ := Config.batch_of_validate accepted
  obtain ⟨sized, start, _⟩ := inStep_of_prepare prepared
  have enough : transfer.remaining ≤ transfer.producer.total + transfer.consumer.total := by
    rw [Transfer.remaining]
    omega
  obtain ⟨inStep, done⟩ := start.rounds sized small positive fits enough
  obtain ⟨read_eq, write_eq⟩ := final_counters prepared inStep done
  have misplaced := inStep.misplaced
  rw [← Transfer.run] at misplaced read_eq write_eq
  simp only [benchLines, mapError_ok, bind, Except.bind, prepared, System.perform_eq, misplaced, finalCounter, read_eq,
    write_eq]
  rfl

end Command

end SharedRing
