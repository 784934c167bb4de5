import SharedRing.Proofs.Containment
import SharedRing.Transfer

/-!
# Transfers in batches of one size

A transfer passes a run of words through a queue: the producer writes batches, the consumer reads batches, the
last batch of each being what remains. `Transfer.calls` makes their calls in the order of a schedule.

If both use batches of one size, then after any schedule the two are `InStep`: the ring streams the words that
have been sent and not yet received, and each count is a multiple of the batch unless it is the total
(`InStep.calls`). So what has been received is the run's start; and a side whose call would be refused leaves the
other's next call possible, as counts that differ do so by a batch, and a batch fits into an empty ring
(`InStep.ready`). Taking turns therefore ends (`InStep.rounds`).
-/

namespace SharedRing

/-! ## Runs of words -/

/-- The `count` words of a run from an index on. -/
def wordsOfRun (first : UInt64) (index count : Nat) : List Element :=
  (List.range count).map fun i => .ofWord (wordOfRun first (index + i))

@[simp] theorem length_wordsOfRun (first : UInt64) (index count : Nat) :
    (wordsOfRun first index count).length = count := by
  simp [wordsOfRun]

theorem wordsOfRun_add (first : UInt64) (index m n : Nat) :
    wordsOfRun first index (m + n) = wordsOfRun first index m ++ wordsOfRun first (index + m) n := by
  simp [wordsOfRun, List.range_add, Nat.add_assoc]

theorem holds_wordsOfRun (first : UInt64) (index count : Nat) :
    ∀ element ∈ wordsOfRun first index count, ElementType.word.Holds element := by
  intro element member
  obtain ⟨i, _, rfl⟩ := List.mem_map.1 member
  have small : (wordOfRun first (index + i)).toNat < valueCount 8 := UInt64.toNat_lt _
  exact ⟨Int.natCast_nonneg _, Int.ofNat_lt.2 small⟩

theorem Element.toWord_ofWord (word : UInt64) : (Element.ofWord word).toWord = word := by
  have small := word.toNat_lt
  rw [ofWord, toWord, UInt64.ofInt, Int.emod_eq_of_lt (Int.natCast_nonneg _) (by omega), Int.toNat_natCast,
    UInt64.ofNat_toNat]

theorem encodeAll_wordsOfRun_add (first : UInt64) (index m n : Nat) :
    ElementType.word.encodeAll (wordsOfRun first index (m + n)) =
      ElementType.word.encodeAll (wordsOfRun first index m) ++
        ElementType.word.encodeAll (wordsOfRun first (index + m) n) := by
  rw [wordsOfRun_add, ElementType.encodeAll_append]

theorem length_encodeAll_wordsOfRun (first : UInt64) (index count : Nat) :
    (ElementType.word.encodeAll (wordsOfRun first index count)).length = 8 * count := by
  rw [ElementType.length_encodeAll, length_wordsOfRun, Nat.mul_comm]
  rfl

/-- The run from zero counts, as long as no word wraps. -/
theorem wordsOfRun_zero {count : Nat} (small : count ≤ wordLimit) :
    wordsOfRun 0 0 count = (List.range count).map fun i => .integer i := by
  refine List.map_congr_left fun i member => ?_
  have below : i < wordLimit := Nat.lt_of_lt_of_le (List.mem_range.1 member) small
  rw [wordOfRun, Element.ofWord, UInt64.zero_add, Nat.zero_add, Ring.toNat_ofNat_of_small below]

/-! ## The tally of a run -/

namespace Tally

def addAll (tally : Tally) (first : UInt64) (elements : List Element) : Tally :=
  elements.foldl (fun tally element => tally.add first element.toWord) tally

/-- The tally of a run that has arrived in order. -/
def ofRun (first : UInt64) (count : Nat) : Tally := empty.addAll first (wordsOfRun first 0 count)

theorem ofRun_add (first : UInt64) (m n : Nat) :
    (ofRun first m).addAll first (wordsOfRun first m n) = ofRun first (m + n) := by
  rw [ofRun, ofRun, addAll, addAll, addAll, wordsOfRun_add, List.foldl_append, Nat.zero_add]

/-- **No word of a run is misplaced**, if it arrives in order. -/
theorem received_ofRun (first : UInt64) (count : Nat) :
    (ofRun first count).received = count ∧ (ofRun first count).misplaced = none := by
  induction count with
  | zero => exact ⟨rfl, rfl⟩
  | succ count ih =>
    obtain ⟨received, misplaced⟩ := ih
    rw [← ofRun_add first count 1]
    simp [addAll, wordsOfRun, add, Element.toWord_ofWord, received, misplaced]

end Tally

/-! ## Schedules -/

namespace Transfer

inductive Side where
  | producer
  | consumer
deriving DecidableEq, Repr

/-- A call of one side, if it has not finished. -/
def call (transfer : Transfer) : Side → Access Transfer
  | .producer => transfer.pollProducer
  | .consumer => transfer.pollConsumer

def calls (transfer : Transfer) : List Side → Access Transfer
  | [] => return transfer
  | side :: sides => do (← transfer.call side).calls sides

/-- What a call makes the consumer see. -/
def glimpse (transfer : Transfer) (memory : Memory) : Side → List Element
  | .producer => []
  | .consumer =>
    if transfer.consumer.isDone then []
    else match (transfer.consumer.queue.read (transfer.consumer.queue.blank transfer.consumer.next)).run memory with
      | ((true, elements), _) => elements
      | ((false, _), _) => []

/-- What the consumer has seen after a schedule, in order. -/
def seen (transfer : Transfer) (memory : Memory) : List Side → List Element
  | [] => []
  | side :: sides =>
    let (next, after) := (transfer.call side).run memory
    transfer.glimpse memory side ++ next.seen after sides

theorem run_calls_cons (transfer : Transfer) (side : Side) (sides : List Side) (memory : Memory) :
    (transfer.calls (side :: sides)).run memory =
      (((transfer.call side).run memory).1.calls sides).run ((transfer.call side).run memory).2 :=
  Access.run_bind _ _ _

/-- The producer's next call would write. -/
def CanSend (transfer : Transfer) (memory : Memory) : Prop :=
  transfer.producer.isDone = false ∧ ((transfer.producer.queue.write transfer.producer.chunk).run memory).1 = true

/-- The consumer's next call would read. -/
def CanReceive (transfer : Transfer) (memory : Memory) : Prop :=
  transfer.consumer.isDone = false ∧
    ((transfer.consumer.queue.read (transfer.consumer.queue.blank transfer.consumer.next)).run memory).1.1 = true

/-! ## In step -/

/-- A transfer of `total` words in batches of one size, both of whose queues are on the ring. -/
structure On (ring : Ring) (first : UInt64) (total batch : Nat) (transfer : Transfer) : Prop where
  source : transfer.producer.queue.element = .word ∧ transfer.producer.queue.ring = some ring
  sink : transfer.consumer.queue.element = .word ∧ transfer.consumer.queue.ring = some ring
  firsts : transfer.producer.first = first ∧ transfer.consumer.first = first
  totals : transfer.producer.total = total ∧ transfer.consumer.total = total
  batches : transfer.producer.batch = batch ∧ transfer.consumer.batch = batch

/-- A count of words that grows by batches, the last one being what remains. -/
structure Counts (total batch count : Nat) : Prop where
  le : count ≤ total
  whole : batch ∣ count ∨ count = total

theorem Counts.zero (total batch : Nat) : Counts total batch 0 := ⟨Nat.zero_le _, .inl (Nat.dvd_zero _)⟩

theorem Counts.next {total batch count : Nat} (h : Counts total batch count) :
    Counts total batch (count + min batch (total - count)) := by
  have le := h.le
  refine ⟨by omega, ?_⟩
  rcases Nat.le_total batch (total - count) with fits | rest
  · rcases h.whole with whole | all
    · exact .inl (by rw [Nat.min_eq_left fits]; exact (Nat.dvd_add_right whole).2 (Nat.dvd_refl _))
    · exact .inr (by omega)
  · exact .inr (by omega)

/-- A count that is behind is behind by a batch, or by all that remains. -/
theorem Counts.next_le {total batch count ahead : Nat} (h : Counts total batch count)
    (h' : Counts total batch ahead) (lt : count < ahead) : count + min batch (total - count) ≤ ahead := by
  have le := h'.le
  rcases h'.whole with whole' | all
  · have whole := h.whole.resolve_right (by omega)
    obtain ⟨m, rfl⟩ := whole
    obtain ⟨n, rfl⟩ := whole'
    have more : m < n := Nat.lt_of_mul_lt_mul_left lt
    have batches : batch * (m + 1) ≤ batch * n := Nat.mul_le_mul_left batch more
    rw [Nat.mul_succ] at batches
    omega
  · omega

/-- How far the producer is ahead. -/
def ahead (transfer : Transfer) : Nat := transfer.producer.sent - transfer.consumer.tally.received

/-- Both sides are at the same run: the ring streams what has been sent and not yet received. -/
structure InStep (ring : Ring) (first : UInt64) (total batch : Nat) (transfer : Transfer) (memory : Memory) :
    Prop extends transfer.On ring first total batch where
  sent : Counts total batch transfer.producer.sent
  received : Counts total batch transfer.consumer.tally.received
  behind : transfer.consumer.tally.received ≤ transfer.producer.sent
  tally : transfer.consumer.tally = .ofRun first transfer.consumer.tally.received
  streams : ring.Streams memory (8 * transfer.consumer.tally.received)
    (ElementType.word.encodeAll (wordsOfRun first transfer.consumer.tally.received transfer.ahead))

section
variable {ring : Ring} {first : UInt64} {total batch count : Nat} {transfer : Transfer} {memory : Memory}

theorem On.chunk_eq (h : transfer.On ring first total batch) :
    transfer.producer.chunk = wordsOfRun first transfer.producer.sent transfer.producer.next := by
  rw [Producer.chunk, h.firsts.1]
  rfl

theorem On.run_write (h : transfer.On ring first total batch) (elements : List Element) (memory : Memory) :
    (transfer.producer.queue.write elements).run memory =
      (ring.write (ElementType.word.encodeAll elements)).run memory := by
  simp only [MessageQueue.write, h.source.1, h.source.2]

theorem On.run_read (h : transfer.On ring first total batch) (buffer : List Element) (memory : Memory) :
    (transfer.consumer.queue.read buffer).run memory =
      let call := (ring.read (ElementType.word.encodeAll buffer)).run memory
      ((call.1.1, ElementType.word.decodeAll buffer.length call.1.2), call.2) := by
  simp only [MessageQueue.read, h.sink.1, h.sink.2, Access.run_bind, Access.run_pure]

/-- The producer's next batch is what its count grows by. -/
theorem InStep.sent_next (h : InStep ring first total batch transfer memory) :
    Counts total batch (transfer.producer.sent + transfer.producer.next) := by
  rw [Producer.next, h.totals.1, h.batches.1]
  exact h.sent.next

theorem InStep.received_next (h : InStep ring first total batch transfer memory) :
    Counts total batch (transfer.consumer.tally.received + transfer.consumer.next) := by
  rw [Consumer.next, h.totals.2, h.batches.2]
  exact h.received.next

/-! ### The producer's call -/

/-- **A batch for which there is room is written**, and both sides stay in step. -/
theorem InStep.write (h : InStep ring first total batch transfer memory) (sized : ring.Sized 8 count)
    (small : 8 * total < wordLimit) (room : transfer.ahead + transfer.producer.next ≤ count) :
    ∃ after, (transfer.producer.queue.write transfer.producer.chunk).run memory = (true, after) ∧
      InStep ring first total batch
        { transfer with
          producer := { transfer.producer with sent := transfer.producer.sent + transfer.producer.next } } after := by
  have behind := h.behind
  have grown := h.sent_next
  have le := grown.le
  have reached : transfer.consumer.tally.received + transfer.ahead = transfer.producer.sent := by
    rw [ahead]; omega
  have fits : (ElementType.word.encodeAll (wordsOfRun first transfer.consumer.tally.received transfer.ahead)).length +
      (ElementType.word.encodeAll transfer.producer.chunk).length ≤ ring.bytes := by
    rw [h.chunk_eq, length_encodeAll_wordsOfRun, length_encodeAll_wordsOfRun, sized.bytes_eq, ← Nat.mul_add]
    exact Nat.mul_le_mul_left 8 room
  obtain ⟨after, ran, streams⟩ := h.streams.write sized.separate sized.bytes_pos fits
    (by rw [h.chunk_eq, length_encodeAll_wordsOfRun, length_encodeAll_wordsOfRun]; omega)
  refine ⟨after, (h.run_write _ _).trans ran, ⟨h.source, h.sink, h.firsts, h.totals, h.batches⟩, grown, h.received,
    by simp only; omega, h.tally, ?_⟩
  have ahead_eq : ahead { transfer with
      producer := { transfer.producer with sent := transfer.producer.sent + transfer.producer.next } } =
      transfer.ahead + transfer.producer.next := by
    simp only [ahead]; omega
  rw [ahead_eq, encodeAll_wordsOfRun_add, reached, ← h.chunk_eq]
  exact streams

theorem InStep.write_refused (h : InStep ring first total batch transfer memory) (sized : ring.Sized 8 count)
    (full : count < transfer.ahead + transfer.producer.next) :
    (transfer.producer.queue.write transfer.producer.chunk).run memory = (false, memory) := by
  rw [h.run_write]
  refine h.streams.write_refused ?_
  rw [h.chunk_eq, length_encodeAll_wordsOfRun, length_encodeAll_wordsOfRun, sized.bytes_eq, ← Nat.mul_add]
  exact Nat.mul_lt_mul_of_pos_left full (by decide)

/-! ### The consumer's call -/

theorem length_encodeAll_blank (queue : MessageQueue) (count : Nat) :
    (ElementType.word.encodeAll (queue.blank count)).length = 8 * count := by
  rw [ElementType.length_encodeAll, MessageQueue.blank, List.length_replicate, Nat.mul_comm]
  rfl

/-- **A batch that is there is read**, it is the run's next, and both sides stay in step. -/
theorem InStep.read (h : InStep ring first total batch transfer memory) (sized : ring.Sized 8 count)
    (enough : transfer.consumer.next ≤ transfer.ahead) :
    let words := wordsOfRun first transfer.consumer.tally.received transfer.consumer.next
    ∃ after, (transfer.consumer.queue.read (transfer.consumer.queue.blank transfer.consumer.next)).run memory =
        ((true, words), after) ∧
      (transfer.consumer.take words).tally.received = transfer.consumer.tally.received + transfer.consumer.next ∧
      InStep ring first total batch { transfer with consumer := transfer.consumer.take words } after := by
  intro words
  have behind := h.behind
  have grown := h.received_next
  obtain ⟨rest, ahead_eq⟩ := Nat.exists_eq_add_of_le enough
  have bytes_eq : ElementType.word.encodeAll (wordsOfRun first transfer.consumer.tally.received transfer.ahead) =
      ElementType.word.encodeAll words ++ ElementType.word.encodeAll
        (wordsOfRun first (transfer.consumer.tally.received + transfer.consumer.next) rest) := by
    rw [ahead_eq, encodeAll_wordsOfRun_add]
  have words_length : (ElementType.word.encodeAll words).length = 8 * transfer.consumer.next :=
    length_encodeAll_wordsOfRun _ _ _
  have blank_length := length_encodeAll_blank transfer.consumer.queue transfer.consumer.next
  have there := Nat.mul_le_mul_left 8 enough
  rw [← blank_length, ← length_encodeAll_wordsOfRun first transfer.consumer.tally.received] at there
  obtain ⟨after, ran, streams⟩ := h.streams.read sized.separate sized.bytes_pos there
  rw [blank_length, bytes_eq, List.take_left' words_length] at ran
  rw [blank_length, bytes_eq, List.drop_left' words_length, ← Nat.mul_add] at streams
  have tally_eq : (transfer.consumer.take words).tally =
      .ofRun first (transfer.consumer.tally.received + transfer.consumer.next) := by
    rw [← Tally.ofRun_add, ← h.tally]
    change transfer.consumer.tally.addAll transfer.consumer.first words = _
    rw [h.firsts.2]
  have received_eq := (Tally.received_ofRun first (transfer.consumer.tally.received + transfer.consumer.next)).1
  rw [← tally_eq] at received_eq
  refine ⟨after, ?_, received_eq, ⟨h.source, h.sink, h.firsts, h.totals, h.batches⟩, h.sent, ?_, ?_, ?_, ?_⟩
  · have decoded := ElementType.decodeAll_encodeAll (holds_wordsOfRun first transfer.consumer.tally.received
      transfer.consumer.next)
    rw [length_wordsOfRun] at decoded
    rw [h.run_read, ran, MessageQueue.blank, List.length_replicate]
    simp only [decoded, words]
  · rw [received_eq]
    exact grown
  · rw [received_eq]
    simp only [ahead] at ahead_eq
    simp only
    omega
  · rw [received_eq]
    exact tally_eq
  · have rest_eq : ahead { transfer with consumer := transfer.consumer.take words } = rest := by
      simp only [ahead, received_eq] at ahead_eq ⊢
      omega
    rw [rest_eq, received_eq]
    exact streams

theorem InStep.read_refused (h : InStep ring first total batch transfer memory)
    (short : transfer.ahead < transfer.consumer.next) :
    ∃ buffer, (transfer.consumer.queue.read (transfer.consumer.queue.blank transfer.consumer.next)).run memory =
      ((false, buffer), memory) := by
  have shorter : (ElementType.word.encodeAll (wordsOfRun first transfer.consumer.tally.received transfer.ahead)).length <
      (ElementType.word.encodeAll (transfer.consumer.queue.blank transfer.consumer.next)).length := by
    rw [length_encodeAll_blank, length_encodeAll_wordsOfRun]
    exact Nat.mul_lt_mul_of_pos_left short (by decide)
  rw [h.run_read, h.streams.read_refused shorter]
  exact ⟨_, rfl⟩

/-! ### Progress -/

/-- What the ring allows the two sides. -/
theorem InStep.canSend_iff (h : InStep ring first total batch transfer memory) (sized : ring.Sized 8 count)
    (small : 8 * total < wordLimit) : transfer.CanSend memory ↔
      transfer.producer.sent < total ∧ transfer.ahead + transfer.producer.next ≤ count := by
  rw [CanSend, Producer.isDone, h.totals.1, decide_eq_false_iff_not, Nat.not_le]
  refine and_congr_right fun _ => ?_
  by_cases room : transfer.ahead + transfer.producer.next ≤ count
  · obtain ⟨after, ran, _⟩ := h.write sized small room
    simp [ran, room]
  · simp [h.write_refused sized (Nat.lt_of_not_le room), room]

theorem InStep.misplaced (h : InStep ring first total batch transfer memory) :
    transfer.consumer.tally.misplaced = none := by
  rw [h.tally]
  exact (Tally.received_ofRun _ _).2

theorem InStep.isDone_consumer (h : InStep ring first total batch transfer memory) :
    transfer.consumer.isDone = decide (total ≤ transfer.consumer.tally.received) := by
  simp [Consumer.isDone, h.misplaced, h.totals.2]

theorem InStep.canReceive_iff (h : InStep ring first total batch transfer memory) (sized : ring.Sized 8 count) :
    transfer.CanReceive memory ↔
      transfer.consumer.tally.received < total ∧ transfer.consumer.next ≤ transfer.ahead := by
  rw [CanReceive, h.isDone_consumer, decide_eq_false_iff_not, Nat.not_le]
  refine and_congr_right fun _ => ?_
  by_cases enough : transfer.consumer.next ≤ transfer.ahead
  · obtain ⟨after, ran, _⟩ := h.read sized enough
    simp [ran, enough]
  · obtain ⟨buffer, ran⟩ := h.read_refused (Nat.lt_of_not_le enough)
    simp [ran, enough]

theorem InStep.isDone_eq (h : InStep ring first total batch transfer memory) :
    transfer.isDone = decide (transfer.consumer.tally.received = total) := by
  have behind := h.behind
  have sent_le := h.sent.le
  rw [isDone, h.isDone_consumer, Producer.isDone, h.totals.1, ← Bool.decide_and]
  exact decide_eq_decide.2 (by omega)

/-- **The two sides never wait for each other**: as long as one of them has not finished, one can go on. Counts
that differ do so by a batch, which is then there to be read; if they do not, the ring is empty, and a batch
fits. -/
theorem InStep.ready (h : InStep ring first total batch transfer memory) (sized : ring.Sized 8 count)
    (small : 8 * total < wordLimit) (fits : batch ≤ count) (going : transfer.isDone = false) :
    transfer.CanSend memory ∨ transfer.CanReceive memory := by
  have behind := h.behind
  have received_le := h.received.le
  rw [h.isDone_eq, decide_eq_false_iff_not] at going
  rw [h.canSend_iff sized small, h.canReceive_iff sized, Consumer.next, Producer.next, h.totals.1, h.totals.2,
    h.batches.1, h.batches.2, ahead]
  rcases Nat.lt_or_eq_of_le behind with less | same
  · have next_le := h.received.next_le h.sent less
    exact .inr (by omega)
  · exact .inl (by omega)

/-! ### One call -/

/-- What both sides have still to do. -/
def remaining (transfer : Transfer) : Nat :=
  transfer.producer.total - transfer.producer.sent + (transfer.consumer.total - transfer.consumer.tally.received)

theorem InStep.with_refused (h : InStep ring first total batch transfer memory) (full short : Nat) :
    InStep ring first total batch
      { producer := { transfer.producer with refused := full }
        consumer := { transfer.consumer with refused := short } } memory :=
  ⟨⟨h.source, h.sink, h.firsts, h.totals, h.batches⟩, h.sent, h.received, h.behind, h.tally, h.streams⟩

/-- **A call of the producer.** It gets on exactly if it can, and otherwise leaves memory and the consumer. -/
theorem InStep.pollProducer (h : InStep ring first total batch transfer memory) (sized : ring.Sized 8 count)
    (small : 8 * total < wordLimit) (positive : 0 < batch) :
    let next := transfer.pollProducer.run memory
    InStep ring first total batch next.1 next.2 ∧ next.1.consumer = transfer.consumer ∧
      (transfer.CanSend memory → next.1.remaining < transfer.remaining) ∧
      (¬ transfer.CanSend memory → next.2 = memory ∧ next.1.remaining = transfer.remaining) := by
  have able := h.canSend_iff sized small
  intro next
  cases done : transfer.producer.isDone with
  | true =>
    have same : next = (transfer, memory) := by simp [next, Transfer.pollProducer, done]
    have unable : ¬ transfer.CanSend memory := fun can => by simp [can.1] at done
    rw [same]
    exact ⟨h, rfl, fun can => absurd can unable, fun _ => ⟨rfl, rfl⟩⟩
  | false =>
    have short : transfer.producer.sent < total := by
      rw [Producer.isDone, h.totals.1, decide_eq_false_iff_not] at done
      omega
    by_cases room : transfer.ahead + transfer.producer.next ≤ count
    · obtain ⟨after, ran, inStep⟩ := h.write sized small room
      have moved : next = (⟨{ transfer.producer with sent := transfer.producer.sent + transfer.producer.next },
          transfer.consumer⟩, after) := by
        simp [next, Transfer.pollProducer, done, Producer.poll, ran]
      rw [moved]
      refine ⟨inStep, rfl, fun _ => ?_, fun unable => absurd (able.2 ⟨short, room⟩) unable⟩
      simp only [remaining, Producer.next, h.totals.1, h.batches.1]
      omega
    · have refused := h.write_refused sized (Nat.lt_of_not_le room)
      have moved : next = (⟨{ transfer.producer with refused := transfer.producer.refused + 1 },
          transfer.consumer⟩, memory) := by
        simp [next, Transfer.pollProducer, done, Producer.poll, refused]
      rw [moved]
      exact ⟨h.with_refused _ _, rfl, fun can => absurd (able.1 can).2 room, fun _ => ⟨rfl, rfl⟩⟩

/-- **A call of the consumer.** It gets on exactly if it can, and what it sees continues the run. -/
theorem InStep.pollConsumer (h : InStep ring first total batch transfer memory) (sized : ring.Sized 8 count)
    (positive : 0 < batch) :
    let next := transfer.pollConsumer.run memory
    InStep ring first total batch next.1 next.2 ∧
      wordsOfRun first 0 transfer.consumer.tally.received ++ transfer.glimpse memory .consumer =
        wordsOfRun first 0 next.1.consumer.tally.received ∧
      (transfer.CanReceive memory → next.1.remaining < transfer.remaining) ∧
      (¬ transfer.CanReceive memory → next.1.remaining = transfer.remaining) := by
  have able := h.canReceive_iff sized
  intro next
  cases done : transfer.consumer.isDone with
  | true =>
    have same : next = (transfer, memory) := by simp [next, Transfer.pollConsumer, done]
    have unable : ¬ transfer.CanReceive memory := fun can => by simp [can.1] at done
    rw [same]
    exact ⟨h, by simp [glimpse, done], fun can => absurd can unable, fun _ => rfl⟩
  | false =>
    have short : transfer.consumer.tally.received < total := by
      rw [h.isDone_consumer, decide_eq_false_iff_not] at done
      omega
    by_cases enough : transfer.consumer.next ≤ transfer.ahead
    · obtain ⟨after, ran, received_eq, inStep⟩ := h.read sized enough
      have moved : next = (⟨transfer.producer, transfer.consumer.take
          (wordsOfRun first transfer.consumer.tally.received transfer.consumer.next)⟩, after) := by
        simp [next, Transfer.pollConsumer, done, Consumer.poll, ran]
      rw [moved]
      refine ⟨inStep, ?_, fun _ => ?_, fun unable => absurd (able.2 ⟨short, enough⟩) unable⟩
      · simp only [glimpse, done, ran, received_eq, wordsOfRun_add, Nat.zero_add]
        rfl
      · have total_eq : (transfer.consumer.take (wordsOfRun first transfer.consumer.tally.received
            transfer.consumer.next)).total = transfer.consumer.total := rfl
        have next_eq : transfer.consumer.next = min batch (total - transfer.consumer.tally.received) := by
          rw [Consumer.next, h.totals.2, h.batches.2]
        simp only [remaining]
        rw [total_eq, received_eq, h.totals.2]
        omega
    · obtain ⟨buffer, refused⟩ := h.read_refused (Nat.lt_of_not_le enough)
      have moved : next = (⟨transfer.producer,
          { transfer.consumer with refused := transfer.consumer.refused + 1 }⟩, memory) := by
        simp [next, Transfer.pollConsumer, done, Consumer.poll, refused]
      rw [moved]
      refine ⟨h.with_refused _ _, ?_, fun can => absurd (able.1 can).2 enough, fun _ => rfl⟩
      simp [glimpse, done, refused]

/-- **A call of either side** keeps them in step, and what the consumer sees continues the run. -/
theorem InStep.call (h : InStep ring first total batch transfer memory) (sized : ring.Sized 8 count)
    (small : 8 * total < wordLimit) (positive : 0 < batch) (side : Side) :
    let next := (transfer.call side).run memory
    InStep ring first total batch next.1 next.2 ∧
      wordsOfRun first 0 transfer.consumer.tally.received ++ transfer.glimpse memory side =
        wordsOfRun first 0 next.1.consumer.tally.received := by
  cases side with
  | producer =>
    obtain ⟨inStep, consumer_eq, _⟩ := h.pollProducer sized small positive
    refine ⟨inStep, ?_⟩
    change _ = wordsOfRun first 0 (transfer.pollProducer.run memory).1.consumer.tally.received
    rw [consumer_eq, glimpse, List.append_nil]
  | consumer =>
    obtain ⟨inStep, continues, _⟩ := h.pollConsumer sized positive
    exact ⟨inStep, continues⟩

/-! ### Schedules and rounds -/

/-- **Calls in the order of any schedule** keep the two sides in step, and the consumer sees the run from where
it was. -/
theorem InStep.calls (h : InStep ring first total batch transfer memory) (sized : ring.Sized 8 count)
    (small : 8 * total < wordLimit) (positive : 0 < batch) (schedule : List Side) :
    let last := (transfer.calls schedule).run memory
    InStep ring first total batch last.1 last.2 ∧
      wordsOfRun first 0 transfer.consumer.tally.received ++ transfer.seen memory schedule =
        wordsOfRun first 0 last.1.consumer.tally.received := by
  induction schedule generalizing transfer memory with
  | nil => exact ⟨h, List.append_nil _⟩
  | cons side schedule ih =>
    obtain ⟨next, continues⟩ := h.call sized small positive side
    obtain ⟨last, others⟩ := ih next
    rw [run_calls_cons]
    refine ⟨last, ?_⟩
    rw [seen, ← List.append_assoc, continues]
    exact others

/-- **A round gets on**, as long as one side has not finished. -/
theorem InStep.round (h : InStep ring first total batch transfer memory) (sized : ring.Sized 8 count)
    (small : 8 * total < wordLimit) (positive : 0 < batch) (fits : batch ≤ count) (going : transfer.isDone = false) :
    let next := transfer.round.run memory
    InStep ring first total batch next.1 next.2 ∧ next.1.remaining < transfer.remaining := by
  intro next
  have next_eq : next = (transfer.pollProducer.run memory).1.pollConsumer.run (transfer.pollProducer.run memory).2 :=
    Access.run_bind _ _ _
  obtain ⟨between, consumer_eq, sends, waits⟩ := h.pollProducer sized small positive
  obtain ⟨last, _, receives, stays⟩ := between.pollConsumer sized positive
  rw [next_eq]
  refine ⟨last, ?_⟩
  by_cases can : transfer.CanSend memory
  · have less := sends can
    by_cases can' : (transfer.pollProducer.run memory).1.CanReceive (transfer.pollProducer.run memory).2
    · exact Nat.lt_trans (receives can') less
    · rwa [stays can']
  · -- a producer that has to wait leaves the consumer's call possible
    obtain ⟨memory_eq, remaining_eq⟩ := waits can
    have able := (h.ready sized small fits going).resolve_left can
    have able' : (transfer.pollProducer.run memory).1.CanReceive (transfer.pollProducer.run memory).2 := by
      rw [memory_eq, CanReceive, consumer_eq]
      exact able
    exact remaining_eq ▸ receives able'

/-- **Enough rounds end the transfer.** -/
theorem InStep.rounds (h : InStep ring first total batch transfer memory) (sized : ring.Sized 8 count)
    (small : 8 * total < wordLimit) (positive : 0 < batch) (fits : batch ≤ count) {n : Nat}
    (enough : transfer.remaining ≤ n) :
    let last := (rounds n transfer).run memory
    InStep ring first total batch last.1 last.2 ∧ last.1.isDone = true := by
  induction n generalizing transfer memory with
  | zero =>
    refine ⟨h, ?_⟩
    have received_le := h.received.le
    simp only [remaining, h.totals.2] at enough
    change transfer.isDone = true
    rw [h.isDone_eq, decide_eq_true_iff]
    omega
  | succ n ih =>
    cases done : transfer.isDone with
    | true =>
      simp only [Transfer.rounds, done, ↓reduceIte, Access.run_pure]
      exact ⟨h, trivial⟩
    | false =>
      obtain ⟨next, less⟩ := h.round sized small positive fits done
      simp only [Transfer.rounds, done, Bool.false_eq_true, ↓reduceIte, Access.run_bind]
      exact ih next (by omega)

end

end Transfer

/-! ## Checks before every step -/

open SharedRing.Ring (Checked check)

def Producer.checkedPoll (producer : Producer) : Checked Producer := do
  check (producer.sent ≤ producer.total) .underflow
  check (producer.sent + producer.next < wordLimit) .overflow
  if ← producer.queue.write producer.chunk then
    return { producer with sent := producer.sent + producer.next }
  else return { producer with refused := producer.refused + 1 }

namespace Consumer

def checkedTake (consumer : Consumer) : List Element → Checked Consumer
  | [] => return consumer
  | element :: elements => do
    check (consumer.tally.received + 1 < wordLimit) .overflow
    checkedTake { consumer with tally := consumer.tally.add consumer.first element.toWord } elements

/-- A turn of the consumer's loop, each step checked; its buffer is as long as a batch. -/
def checkedPoll (consumer : Consumer) : Checked Consumer := do
  check (consumer.tally.received ≤ consumer.total) .underflow
  check (consumer.next ≤ consumer.batch) .overrun
  let (filled, elements) ← consumer.queue.read (consumer.queue.blank consumer.next)
  if filled then consumer.checkedTake elements
  else return { consumer with refused := consumer.refused + 1 }

end Consumer

theorem Producer.run_checkedPoll {producer : Producer} (le : producer.sent ≤ producer.total)
    (small : producer.total < wordLimit) : producer.checkedPoll.run = .ok <$> producer.poll := by
  have next_le : producer.next ≤ producer.total - producer.sent := Nat.min_le_right _ _
  rw [checkedPoll, Ring.run_check_bind le, Ring.run_check_bind (by omega), Ring.run_liftM_bind, poll, map_bind]
  refine congrArg (producer.queue.write producer.chunk >>= ·) (funext fun wrote => ?_)
  cases wrote <;> rfl

namespace Consumer

theorem run_checkedTake {consumer : Consumer} {elements : List Element}
    (small : consumer.tally.received + elements.length < wordLimit) :
    (consumer.checkedTake elements).run = pure (.ok (consumer.take elements)) := by
  induction elements generalizing consumer with
  | nil => rfl
  | cons element elements ih =>
    rw [List.length_cons] at small
    rw [checkedTake, Ring.run_check_bind (by omega)]
    exact ih (by simp only [Tally.add]; omega)

theorem run_checkedPoll {consumer : Consumer} (le : consumer.tally.received ≤ consumer.total)
    (small : consumer.total < wordLimit) : consumer.checkedPoll.run = .ok <$> consumer.poll := by
  have next_le : consumer.next ≤ consumer.total - consumer.tally.received := Nat.min_le_right _ _
  have within : consumer.next ≤ consumer.batch := Nat.min_le_left _ _
  rw [checkedPoll, Ring.run_check_bind le, Ring.run_check_bind within, Ring.run_liftM_bind, poll, map_bind]
  cases valid : consumer.queue.ring with
  | none =>
    simp only [MessageQueue.read, valid, pure_bind]
    rfl
  | some ring =>
    simp only [MessageQueue.read, valid, bind_assoc, pure_bind]
    refine congrArg (ring.read _ >>= ·) (funext fun result => ?_)
    obtain ⟨filled, bytes⟩ := result
    cases filled with
    | false => rfl
    | true =>
      have length_eq : (consumer.queue.blank consumer.next).length = consumer.next := List.length_replicate
      refine (run_checkedTake ?_).trans rfl
      rw [ElementType.length_decodeAll, length_eq]
      omega

end Consumer

end SharedRing
