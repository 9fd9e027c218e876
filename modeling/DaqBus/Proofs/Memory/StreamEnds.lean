import DaqBus.Proofs.Memory.Waiting
import DaqBus.Proofs.Stream.Bounded

/-!
# Ends of streams

An end is a handle on one queue of the store, and a clone of it is another handle on the same queue.
Whatever is pushed, written and read through the ends of all streams, in any order, each stream gives
its bytes back once and in the order in which they came. A read comes back empty only where nothing is
asked for or nothing waits, and a bounded read takes exactly what there is up to its limit.
-/

namespace DaqBus

open ByteStream

namespace Queue

/-! ### Bounded reads in any pieces -/

variable {limit : Nat} {q after : Queue} {bs : Bytes}

theorem bytes_of_read {size : Nat} (hread : ByteStream.read size q = (.ok bs, after)) :
    bs ++ after.bytes = q.bytes := by
  cases hread
  exact List.take_append_drop size q.bytes

theorem eq_nil_of_read_nil {size : Nat} (hread : ByteStream.read size q = (.ok [], after)) :
    size = 0 ∨ q.bytes = [] := by
  have htake : q.bytes.take size = [] := Except.ok.inj (congrArg Prod.fst hread)
  exact List.take_eq_nil_iff.mp htake

/-- Only bytes from the front are given, and a queue is never interrupted. -/
theorem bytes_of_gives (h : Gives q bs after) : bs ++ after.bytes = q.bytes := by
  induction h with
  | nothing q => rfl
  | piece hread hrest ih => rw [List.append_assoc, ih, bytes_of_read hread]
  | interruption hread hfault hrest ih => cases hread

/-- What a queue gives to a bounded read does not depend on the pieces in which it is read. -/
theorem outcome_of_bounded {outcome : Except Fault Bytes} (h : Bounded limit q outcome after) :
    ∃ bs, outcome = .ok bs ∧ bs.length = min limit q.bytes.length ∧ bs ++ after.bytes = q.bytes := by
  cases h with
  | @full bs _ hgives hlength =>
      have hbytes := bytes_of_gives hgives
      refine ⟨bs, rfl, ?_, hbytes⟩
      rw [← hbytes, List.length_append]
      omega
  | @ended bs n last _ hgives hlength hn hread =>
      have hlast : last.bytes = [] := (eq_nil_of_read_nil hread).resolve_left (Nat.ne_of_gt hn)
      have hafter : after.bytes = last.bytes := bytes_of_read hread
      have hbytes := bytes_of_gives hgives
      refine ⟨bs, rfl, ?_, by rw [hafter, hbytes]⟩
      rw [← hbytes, hlast, List.append_nil]
      omega
  | failed hgives hlength hread hfault => cases hread

end Queue

/-- A store, with the ends of its streams that are in use. Ends of one stream are clones. -/
structure StreamEnds where
  bus : MemoryBus
  streams : List StreamId
  present : ∀ id ∈ streams, id < bus.queues.length

namespace StreamEnds

open MemoryBus (queue)

/-! ### Histories -/

/-- What is done through one end. -/
inductive Act
  | clone
  | push (bs : Bytes)
  | write (bs : Bytes)
  | flush
  | read (size : Nat)
  | readUpTo (limit : Nat)

inductive Reply
  | cloned
  | pushed
  | wrote (outcome : Except Errno Nat)
  | flushed (outcome : Except Errno Unit)
  | received (outcome : Except Errno Bytes)

/-- A step through the end at a place of the list. -/
structure Move where
  place : Nat
  act : Act

/-- A step that has been taken: its stream, and what came back. -/
structure Event where
  stream : StreamId
  act : Act
  reply : Reply

namespace Act

def perform (id : StreamId) (bus : MemoryBus) : Act → Reply × MemoryBus
  | .clone => (.cloned, bus)
  | .push bs => (.pushed, bus.pushTo id bs)
  | .write bs =>
    let (outcome, after) := (queue id).run (ByteStream.write bs) bus
    (.wrote outcome, after)
  | .flush =>
    let (outcome, after) := (queue id).flush bus
    (.flushed outcome, after)
  | .read size =>
    let (outcome, after) := (queue id).run (ByteStream.read size) bus
    (.received outcome, after)
  | .readUpTo limit =>
    let (outcome, after) := (queue id).readUpTo limit bus
    (.received outcome, after)

/-- The end that comes with the step. -/
def added (id : StreamId) : Act → List StreamId
  | .clone => [id]
  | _ => []

/-- The bytes that the step hands over. -/
def sent : Act → Bytes
  | .push bs | .write bs => bs
  | _ => []

end Act

def Reply.bytes : Reply → Bytes
  | .received (.ok bs) => bs
  | _ => []

/-- How a queue serves a step: what waits before it, the reply, and what waits after it. -/
inductive Serves : Bytes → Act → Reply → Bytes → Prop
  | clone (waiting : Bytes) : Serves waiting .clone .cloned waiting
  | push (waiting bs : Bytes) : Serves waiting (.push bs) .pushed (waiting ++ bs)
  | write (waiting bs : Bytes) :
      Serves waiting (.write bs) (.wrote (.ok bs.length)) (waiting ++ bs)
  | flush (waiting : Bytes) : Serves waiting .flush (.flushed (.ok ())) waiting
  | read {size : Nat} {waiting bs rest : Bytes} (hbytes : bs ++ rest = waiting)
      (hlength : bs.length ≤ size) (hnil : bs = [] → size = 0 ∨ waiting = []) :
      Serves waiting (.read size) (.received (.ok bs)) rest
  | readUpTo {limit : Nat} {waiting bs rest : Bytes} (hbytes : bs ++ rest = waiting)
      (hlength : bs.length = min limit waiting.length) :
      Serves waiting (.readUpTo limit) (.received (.ok bs)) rest

namespace Serves

variable {waiting rest : Bytes} {act : Act} {reply : Reply}

theorem read_take (size : Nat) (waiting : Bytes) :
    Serves waiting (.read size) (.received (.ok (waiting.take size))) (waiting.drop size) :=
  .read (List.take_append_drop size waiting) (List.length_take_le size waiting)
    List.take_eq_nil_iff.mp

theorem readUpTo_take (limit : Nat) (waiting : Bytes) :
    Serves waiting (.readUpTo limit) (.received (.ok (waiting.take limit))) (waiting.drop limit) :=
  .readUpTo (List.take_append_drop limit waiting) List.length_take

theorem balance (h : Serves waiting act reply rest) : waiting ++ act.sent = reply.bytes ++ rest := by
  cases h with
  | clone | flush => exact List.append_nil _
  | push | write => rfl
  | read hbytes => exact (List.append_nil _).trans hbytes.symm
  | readUpTo hbytes => exact (List.append_nil _).trans hbytes.symm

end Serves

/-! ### One step -/

/-- A step puts one queue back and leaves the rest of the store alone. -/
theorem Act.perform_eq (id : StreamId) (bus : MemoryBus) (act : Act) :
    ∃ reply q, act.perform id bus = (reply, (queue id).put q bus) ∧
      Serves ((queue id).view bus).bytes act reply q.bytes := by
  cases act with
  | clone => exact ⟨_, _, by rw [MemoryBus.put_view]; rfl, .clone _⟩
  | push bs => exact ⟨_, _, rfl, .push _ bs⟩
  | write bs =>
      refine ⟨.wrote (.ok bs.length), ((queue id).view bus).push bs, ?_, .write _ bs⟩
      rw [perform, Lens.run_of_ok (Queue.write_eq bs _)]
  | flush =>
      refine ⟨.flushed (.ok ()), (queue id).view bus, ?_, .flush _⟩
      rw [perform, MemoryBus.flush_eq, MemoryBus.put_view]
  | read size =>
      refine ⟨_, _, ?_, Serves.read_take size _⟩
      rw [perform, Lens.run_of_ok (Queue.read_eq size _)]
  | readUpTo limit =>
      refine ⟨_, _, ?_, Serves.readUpTo_take limit _⟩
      rw [perform, Lens.readUpTo_queue]

section

variable {id other : StreamId} {bus : MemoryBus}

theorem length_queues_perform (id : StreamId) (bus : MemoryBus) (act : Act) :
    (act.perform id bus).2.queues.length = bus.queues.length := by
  obtain ⟨reply, q, hperform, -⟩ := act.perform_eq id bus
  rw [hperform]
  exact MemoryBus.length_queues_put id q bus

theorem serves_perform (hid : id < bus.queues.length) (act : Act) :
    Serves ((queue id).view bus).bytes act (act.perform id bus).1
      ((queue id).view (act.perform id bus).2).bytes := by
  obtain ⟨reply, q, hperform, hserves⟩ := act.perform_eq id bus
  rw [hperform, MemoryBus.view_put_self hid]
  exact hserves

theorem view_perform_of_ne (hne : id ≠ other) (act : Act) :
    (queue other).view (act.perform id bus).2 = (queue other).view bus := by
  obtain ⟨reply, q, hperform, -⟩ := act.perform_eq id bus
  rw [hperform, MemoryBus.view_put_ne hne]

end

theorem Act.eq_of_mem_added {id other : StreamId} {act : Act} (h : other ∈ act.added id) :
    other = id := by
  cases act with
  | clone => exact List.mem_singleton.mp h
  | _ => exact absurd h List.not_mem_nil

theorem present_after (s : StreamEnds) {id : StreamId} (hid : id ∈ s.streams) (act : Act) :
    ∀ other ∈ s.streams ++ act.added id, other < (act.perform id s.bus).2.queues.length := by
  intro other hother
  rw [length_queues_perform]
  rcases List.mem_append.mp hother with hold | hadded
  · exact s.present other hold
  · exact Act.eq_of_mem_added hadded ▸ s.present id hid

/-- The ends after a step through the end of a stream. -/
def after (s : StreamEnds) {id : StreamId} (hid : id ∈ s.streams) (act : Act) : StreamEnds where
  bus := (act.perform id s.bus).2
  streams := s.streams ++ act.added id
  present := s.present_after hid act

/-- Takes a step; where the list has no such place, nothing happens. -/
def step (s : StreamEnds) (move : Move) : Option Event × StreamEnds :=
  if h : move.place < s.streams.length then
    let id := s.streams[move.place]
    (some ⟨id, move.act, (move.act.perform id s.bus).1⟩, s.after (List.getElem_mem h) move.act)
  else (none, s)

/-- Takes the steps one after the other and keeps those that have been taken. -/
def run (s : StreamEnds) : List Move → List Event × StreamEnds
  | [] => ([], s)
  | move :: moves =>
    let (event, next) := s.step move
    let (events, last) := next.run moves
    (event.toList ++ events, last)

/-- The bytes that wait on a stream. -/
def queued (s : StreamEnds) (id : StreamId) : Bytes :=
  ((queue id).view s.bus).bytes

def sentTo (id : StreamId) (events : List Event) : Bytes :=
  (events.filter fun event => event.stream = id).flatMap fun event => event.act.sent

def receivedFrom (id : StreamId) (events : List Event) : Bytes :=
  (events.filter fun event => event.stream = id).flatMap fun event => event.reply.bytes

variable {s : StreamEnds} {id other : StreamId}

theorem serves_after (hid : id ∈ s.streams) (act : Act) :
    Serves (s.queued id) act (act.perform id s.bus).1 ((s.after hid act).queued id) :=
  serves_perform (s.present id hid) act

theorem queued_after_of_ne (hid : id ∈ s.streams) (act : Act) (hne : id ≠ other) :
    (s.after hid act).queued other = s.queued other :=
  congrArg Queue.bytes (view_perform_of_ne hne act)

theorem step_of_some {place : Nat} (hplace : s.streams[place]? = some id) (act : Act) :
    s.step ⟨place, act⟩ = (some ⟨id, act, (act.perform id s.bus).1⟩,
      s.after (List.mem_of_getElem? hplace) act) := by
  obtain ⟨hlt, rfl⟩ := List.getElem?_eq_some_iff.mp hplace
  exact dif_pos hlt

theorem step_of_none {place : Nat} (hplace : s.streams[place]? = none) (act : Act) :
    s.step ⟨place, act⟩ = (none, s) :=
  dif_neg (Nat.not_lt.mpr (List.getElem?_eq_none_iff.mp hplace))

theorem sentTo_append (id : StreamId) (front back : List Event) :
    sentTo id (front ++ back) = sentTo id front ++ sentTo id back := by
  rw [sentTo, List.filter_append, List.flatMap_append]
  rfl

theorem receivedFrom_append (id : StreamId) (front back : List Event) :
    receivedFrom id (front ++ back) = receivedFrom id front ++ receivedFrom id back := by
  rw [receivedFrom, List.filter_append, List.flatMap_append]
  rfl

/-- **One step.** What comes out of a stream and what stays in it is what was in it and what went in. -/
theorem balance_step (s : StreamEnds) (move : Move) (id : StreamId) :
    s.queued id ++ sentTo id (s.step move).1.toList =
      receivedFrom id (s.step move).1.toList ++ (s.step move).2.queued id := by
  obtain ⟨place, act⟩ := move
  cases hplace : s.streams[place]? with
  | none =>
      rw [step_of_none hplace]
      exact List.append_nil _
  | some stream =>
      rw [step_of_some hplace]
      by_cases hid : stream = id
      · subst hid
        have hserves := serves_after (List.mem_of_getElem? hplace) act
        simpa [sentTo, receivedFrom] using hserves.balance
      · simp [sentTo, receivedFrom, hid, queued_after_of_ne (List.mem_of_getElem? hplace) act hid]

theorem balance_run (s : StreamEnds) (moves : List Move) (id : StreamId) :
    s.queued id ++ sentTo id (s.run moves).1 =
      receivedFrom id (s.run moves).1 ++ (s.run moves).2.queued id := by
  induction moves generalizing s with
  | nil => exact List.append_nil _
  | cons move moves ih =>
      have hstep := balance_step s move id
      have hrest := ih (s.step move).2
      calc s.queued id ++ sentTo id (s.run (move :: moves)).1
          = s.queued id ++ sentTo id (s.step move).1.toList ++
              sentTo id ((s.step move).2.run moves).1 := by
            rw [run, sentTo_append, List.append_assoc]
        _ = receivedFrom id (s.step move).1.toList ++
              (receivedFrom id ((s.step move).2.run moves).1 ++
                ((s.step move).2.run moves).2.queued id) := by
            rw [hstep, List.append_assoc, hrest]
        _ = receivedFrom id (s.run (move :: moves)).1 ++ (s.run (move :: moves)).2.queued id := by
            rw [run, receivedFrom_append, List.append_assoc]

/-- What a history shows of the streams, and how they are served after it. -/
structure FirstInFirstOut (s : StreamEnds) (moves : List Move) : Prop where
  order (id : StreamId) : s.queued id ++ sentTo id (s.run moves).1 =
    receivedFrom id (s.run moves).1 ++ (s.run moves).2.queued id
  next {place : Nat} {id : StreamId} (hplace : (s.run moves).2.streams[place]? = some id)
    (act : Act) : ∃ reply after, (s.run moves).2.step ⟨place, act⟩ = (some ⟨id, act, reply⟩, after) ∧
      Serves ((s.run moves).2.queued id) act reply (after.queued id)
  bounded {id : StreamId} {limit : Nat} {outcome : Except Fault Bytes} {after : Queue}
    (hbounded : Bounded limit ((queue id).view (s.run moves).2.bus) outcome after) :
    ∃ bs, outcome = .ok bs ∧ bs.length = min limit ((s.run moves).2.queued id).length ∧
      bs ++ after.bytes = (s.run moves).2.queued id

/-- **Exact queues.** Whatever is done through whichever ends, what a stream has given back and what still
waits on it are, in this order, what waited at first and what was handed over since. After any such
history every step is served as by a queue: a read is empty only if nothing is asked for or nothing waits,
and a read up to a limit takes all that waits up to it, in whatever pieces it is carried out. -/
theorem first_in_first_out (s : StreamEnds) (moves : List Move) : FirstInFirstOut s moves where
  order := balance_run s moves
  next hplace act := ⟨_, _, step_of_some hplace act, serves_after (List.mem_of_getElem? hplace) act⟩
  bounded := Queue.outcome_of_bounded

example :
    (run { bus := { queues := [{}] }, streams := [0], present := by decide }
      [⟨0, .write [1, 2, 3]⟩, ⟨0, .clone⟩, ⟨1, .read 2⟩, ⟨0, .read 2⟩, ⟨1, .read 2⟩]).1.map
        (fun event => event.reply.bytes) = [[], [], [1, 2], [3], []] := by
  rfl

end StreamEnds

end DaqBus
