import DaqBus.Proofs.Stream.Accepting
import DaqBus.Proofs.Stream.Consuming
import DaqBus.Proofs.Stream.Pieces

/-!
# Watched streams

A watched stream does what it would do anyway and keeps every call it gets. Streams inside a larger
state are watched in the same way, each under a name of its own, so that work on the state leaves behind
which of them it has called, and how.
-/

namespace DaqBus

open ByteStream

/-- A call on a stream. Of a read, the answer is kept. -/
inductive Call
  | read (answer : Except Fault Bytes)
  | write (bs : Bytes)
  | flush

namespace Call

def isRead : Call → Bool
  | read _ => true
  | write _ | flush => false

/-- The bytes that the stream has handed out. -/
def given : Call → Bytes
  | read (.ok bs) => bs
  | read (.error _) | write _ | flush => []

end Call

/-- A state with the calls that were made on it. -/
structure Watched (κ σ : Type) where
  state : σ
  calls : List κ := []

variable {κ σ α β ε : Type}

namespace Watched

/-- What a watched operation adds to the calls. Otherwise it is the operation itself. -/
def Makes (made : List κ) (w : Watched κ σ) (plain : α × σ) (watched : α × Watched κ σ) : Prop :=
  watched = (plain.1, ⟨plain.2, w.calls ++ made⟩)

section Makes

variable {w next : Watched κ σ} {made more : List κ} {plain : α × σ} {watched : α × Watched κ σ} {a : α}

theorem Makes.after (h : Makes more next plain watched) (hcalls : next.calls = w.calls ++ made) :
    Makes (made ++ more) w plain watched := by
  rw [Makes, h, hcalls, List.append_assoc]

theorem Makes.outcome_eq (h : Makes made w plain (a, next)) : a = plain.1 :=
  congrArg Prod.fst h

theorem Makes.map (h : Makes made w plain (a, next)) (f : α → β) :
    Makes made w (f plain.1, plain.2) (f a, next) := by
  obtain ⟨rfl, rfl⟩ := Prod.mk.inj h
  rfl

theorem Makes.of_calls (hcalls : next.calls = w.calls ++ made) :
    Makes made w (a, next.state) (a, next) := by
  rw [Makes, ← hcalls]

end Makes

/-- The second work is the first one, watched, and all the calls that it makes are good. -/
def Traces (good : κ → Prop) (plain : ExceptT ε (StateM σ) α)
    (watched : ExceptT ε (StateM (Watched κ σ)) α) : Prop :=
  ∀ w, ∃ made, Makes made w (plain w.state) (watched w) ∧ ∀ call ∈ made, good call

section Traces

variable {good better : κ → Prop} {plain : ExceptT ε (StateM σ) α}
  {watched : ExceptT ε (StateM (Watched κ σ)) α}

theorem Traces.mono (h : Traces good plain watched) (himp : ∀ call, good call → better call) :
    Traces better plain watched := by
  intro w
  obtain ⟨made, hmakes, hgood⟩ := h w
  exact ⟨made, hmakes, fun call hcall => himp call (hgood call hcall)⟩

theorem traces_pure (good : κ → Prop) (a : α) :
    Traces good (pure a : ExceptT ε (StateM σ) α) (pure a) :=
  fun _ => ⟨[], .of_calls (List.append_nil _).symm, nofun⟩

theorem traces_of_error {e : ε} (hplain : ∀ state, plain state = (.error e, state))
    (hwatched : ∀ w, watched w = (.error e, w)) : Traces good plain watched := by
  intro w
  rw [hplain, hwatched]
  exact ⟨[], .of_calls (List.append_nil _).symm, nofun⟩

theorem Traces.bind {next : α → ExceptT ε (StateM σ) β}
    {watchedNext : α → ExceptT ε (StateM (Watched κ σ)) β} (h : Traces good plain watched)
    (hnext : ∀ a, Traces good (next a) (watchedNext a)) :
    Traces good (plain >>= next) (watched >>= watchedNext) := by
  intro w
  obtain ⟨made, hmakes, hgood⟩ := h w
  rw [Effect.bind_apply, Effect.bind_apply, show watched w = _ from hmakes]
  rcases plain w.state with ⟨failure | a, state⟩
  · exact ⟨made, rfl, hgood⟩
  · obtain ⟨more, hmore, hgood'⟩ := hnext a ⟨state, w.calls ++ made⟩
    exact ⟨made ++ more, hmore.after rfl, List.forall_mem_append.mpr ⟨hgood, hgood'⟩⟩

theorem Traces.test {bad : Prop} [Decidable bad] {e : ε} {next : PUnit → ExceptT ε (StateM σ) α}
    {watchedNext : PUnit → ExceptT ε (StateM (Watched κ σ)) α}
    (hnext : Traces good (next ⟨⟩) (watchedNext ⟨⟩)) :
    Traces good (if bad then throw e >>= next else next ⟨⟩)
      (if bad then throw e >>= watchedNext else watchedNext ⟨⟩) := by
  split
  · exact traces_of_error (fun _ => rfl) fun _ => rfl
  · exact hnext

end Traces

/-! ### Streams -/

/-- An operation that counts as one call. -/
def noting (call : α → κ) (operation : σ → α × σ) (w : Watched κ σ) : α × Watched κ σ :=
  ((operation w.state).1, ⟨(operation w.state).2, w.calls ++ [call (operation w.state).1]⟩)

theorem noting_eq_iff {call : α → κ} {operation : σ → α × σ} {w next : Watched κ σ} {a : α} :
    noting call operation w = (a, next) ↔
      operation w.state = (a, next.state) ∧ next.calls = w.calls ++ [call a] := by
  obtain ⟨state, calls⟩ := next
  rcases hrun : operation w.state with ⟨b, after⟩
  simp only [noting, hrun, Prod.mk.injEq, Watched.mk.injEq]
  constructor
  · rintro ⟨rfl, rfl, rfl⟩
    exact ⟨⟨rfl, rfl⟩, rfl⟩
  · rintro ⟨⟨rfl, rfl⟩, rfl⟩
    exact ⟨rfl, rfl, rfl⟩

variable [ByteStream σ]

instance : ByteStream (Watched Call σ) where
  read n := noting .read (ByteStream.read n)
  write bs := noting (fun _ => .write bs) (ByteStream.write bs)
  flush := noting (fun _ => .flush) ByteStream.flush
  readsLeft w := ByteStream.readsLeft w.state
  writesLeft w := ByteStream.writesLeft w.state
  length_read_le h := ByteStream.length_read_le (noting_eq_iff.mp h).1
  readsLeft_of_ok h := ByteStream.readsLeft_of_ok (noting_eq_iff.mp h).1
  readsLeft_of_interrupted h hfault :=
    ByteStream.readsLeft_of_interrupted (noting_eq_iff.mp h).1 hfault
  writesLeft_of_ok h := ByteStream.writesLeft_of_ok (noting_eq_iff.mp h).1
  writesLeft_of_interrupted h hfault :=
    ByteStream.writesLeft_of_interrupted (noting_eq_iff.mp h).1 hfault

variable {w next : Watched Call σ} {limit : Nat}

theorem read_eq_iff {answer : Except Fault Bytes} : read limit w = (answer, next) ↔
    read limit w.state = (answer, next.state) ∧ next.calls = w.calls ++ [.read answer] :=
  noting_eq_iff

theorem write_eq_iff {bs : Bytes} {answer : Except Fault Nat} : write bs w = (answer, next) ↔
    write bs w.state = (answer, next.state) ∧ next.calls = w.calls ++ [.write bs] :=
  noting_eq_iff

/-- A bounded read makes reads, and what these hand out is what comes back. -/
theorem exists_makes_readUpTo (limit : Nat) (w : Watched Call σ) :
    ∃ made : List Call, Makes made w (readUpTo limit w.state) (readUpTo limit w) ∧
      (∀ call ∈ made, call.isRead = true) ∧
      ∀ bs, (readUpTo limit w.state).1 = .ok bs → made.flatMap Call.given = bs := by
  have hone (answer : Except Fault Bytes) : ∀ call ∈ [Call.read answer], call.isRead = true := by
    simp [Call.isRead]
  fun_induction readUpTo limit w with
  | case1 w =>
      rw [readUpTo_zero]
      refine ⟨[], .of_calls (List.append_nil _).symm, nofun, ?_⟩
      rintro bs ⟨⟩
      rfl
  | case2 limit w hlimit fault next hread hfault ih =>
      obtain ⟨hstate, hcalls⟩ := read_eq_iff.mp hread
      obtain ⟨made, hmakes, hreads, hgiven⟩ := ih
      rw [readUpTo_of_interrupted hlimit hstate hfault]
      refine ⟨_, hmakes.after hcalls, List.forall_mem_append.mpr ⟨hone _, hreads⟩, ?_⟩
      intro bs hbs
      rw [List.flatMap_append, hgiven bs hbs]
      rfl
  | case3 limit w hlimit fault next hread hfault =>
      obtain ⟨hstate, hcalls⟩ := read_eq_iff.mp hread
      rw [readUpTo_of_failed hlimit hstate (by simpa using hfault)]
      exact ⟨_, .of_calls hcalls, hone _, nofun⟩
  | case4 limit w hlimit next hread =>
      obtain ⟨hstate, hcalls⟩ := read_eq_iff.mp hread
      rw [readUpTo_of_ended hlimit hstate]
      refine ⟨_, .of_calls hcalls, hone _, ?_⟩
      rintro bs ⟨⟩
      rfl
  | case5 limit w hlimit b bs next hread rest last hrest ih =>
      obtain ⟨hstate, hcalls⟩ := read_eq_iff.mp hread
      obtain ⟨made, hmakes, hreads, hgiven⟩ := ih
      rw [hrest] at hmakes
      rw [readUpTo_of_piece hlimit (List.cons_ne_nil b bs) hstate]
      refine ⟨_, (hmakes.map (·.map (b :: bs ++ ·))).after hcalls,
        List.forall_mem_append.mpr ⟨hone _, hreads⟩, ?_⟩
      have hplain : (readUpTo (limit - (b :: bs).length) next.state).1 = .ok rest :=
        hmakes.outcome_eq.symm
      rw [hplain]
      rintro all ⟨⟩
      rw [List.flatMap_append, hgiven rest hplain, List.flatMap_singleton]
      rfl
  | case6 limit w hlimit b bs next hread fault last hrest ih =>
      obtain ⟨hstate, hcalls⟩ := read_eq_iff.mp hread
      obtain ⟨made, hmakes, hreads, -⟩ := ih
      rw [hrest] at hmakes
      rw [readUpTo_of_piece hlimit (List.cons_ne_nil b bs) hstate]
      refine ⟨_, (hmakes.map (·.map (b :: bs ++ ·))).after hcalls,
        List.forall_mem_append.mpr ⟨hone _, hreads⟩, ?_⟩
      have hplain : (readUpTo (limit - (b :: bs).length) next.state).1 = .error fault :=
        hmakes.outcome_eq.symm
      rw [hplain]
      exact nofun

/-- Writing all bytes makes no reads. -/
theorem exists_makes_writeAll (bs : Bytes) (w : Watched Call σ) :
    ∃ made : List Call, Makes made w (writeAll bs w.state) (writeAll bs w) ∧
      ∀ call ∈ made, call.isRead = false := by
  have hone (bs : Bytes) : ∀ call ∈ [Call.write bs], call.isRead = false := by
    simp [Call.isRead]
  fun_induction writeAll bs w with
  | case1 w =>
      rw [writeAll_nil]
      exact ⟨[], .of_calls (List.append_nil _).symm, nofun⟩
  | case2 bs w hbs fault next hwrite hfault ih =>
      obtain ⟨hstate, hcalls⟩ := write_eq_iff.mp hwrite
      obtain ⟨made, hmakes, hwrites⟩ := ih
      rw [writeAll_of_interrupted hbs hstate hfault]
      exact ⟨_, hmakes.after hcalls, List.forall_mem_append.mpr ⟨hone _, hwrites⟩⟩
  | case3 bs w hbs fault next hwrite hfault =>
      obtain ⟨hstate, hcalls⟩ := write_eq_iff.mp hwrite
      rw [writeAll_of_failed hbs hstate (by simpa using hfault)]
      exact ⟨_, .of_calls hcalls, hone _⟩
  | case4 bs w hbs next hwrite =>
      obtain ⟨hstate, hcalls⟩ := write_eq_iff.mp hwrite
      rw [writeAll_of_refused hbs hstate]
      exact ⟨_, .of_calls hcalls, hone _⟩
  | case5 bs w hbs n next hwrite ih =>
      obtain ⟨hstate, hcalls⟩ := write_eq_iff.mp hwrite
      obtain ⟨made, hmakes, hwrites⟩ := ih
      rw [writeAll_of_accepted hbs hstate]
      exact ⟨_, hmakes.after hcalls, List.forall_mem_append.mpr ⟨hone _, hwrites⟩⟩

end Watched

/-! ### Streams inside a state -/

namespace Lens

open Watched

variable {S ι : Type}

/-- The place of a stream in a state that keeps the calls on all its streams. -/
def watched (lens : Lens S σ) (name : ι) : Lens (Watched (ι × Call) S) (Watched Call σ) where
  view w := ⟨lens.view w.state, []⟩
  put stream w := ⟨lens.put stream.state w.state, w.calls ++ stream.calls.map (name, ·)⟩

/-- The calls on the stream are those of the state, under the name of the stream. -/
theorem makes_run {lens : Lens S σ} {name : ι} {operation : σ → Except Fault α × σ}
    {noted : Watched Call σ → Except Fault α × Watched Call σ} {made : List Call}
    {w : Watched (ι × Call) S}
    (h : Makes made ⟨lens.view w.state, []⟩ (operation (lens.view w.state))
      (noted ⟨lens.view w.state, []⟩)) :
    Makes (made.map (name, ·)) w (lens.run operation w.state) ((lens.watched name).run noted w) := by
  rw [Makes, run_eq, run_eq, show noted ((lens.watched name).view w) = _ from h]
  rfl

variable [ByteStream σ]

theorem exists_makes_readUpTo (lens : Lens S σ) (name : ι) (limit : Nat) (w : Watched (ι × Call) S) :
    ∃ made : List Call, Makes (made.map (name, ·)) w (lens.readUpTo limit w.state)
        ((lens.watched name).readUpTo limit w) ∧
      (∀ call ∈ made, call.isRead = true) ∧
      ∀ bs, (ByteStream.readUpTo limit (lens.view w.state)).1 = .ok bs →
        made.flatMap Call.given = bs := by
  obtain ⟨made, hmakes, hreads, hgiven⟩ := Watched.exists_makes_readUpTo limit ⟨lens.view w.state, []⟩
  exact ⟨made, makes_run hmakes, hreads, hgiven⟩

theorem traces_readUpTo (lens : Lens S σ) (name : ι) (limit : Nat) :
    Traces (fun call => call.1 = name ∧ call.2.isRead = true) (lens.readUpTo limit)
      ((lens.watched name).readUpTo limit) := by
  intro w
  obtain ⟨made, hmakes, hreads, -⟩ := lens.exists_makes_readUpTo name limit w
  exact ⟨_, hmakes, List.forall_mem_map.mpr fun call hcall => ⟨rfl, hreads call hcall⟩⟩

theorem traces_deliver (lens : Lens S σ) (name : ι) (bs : Bytes) :
    Traces (fun call => call.1 = name ∧ call.2.isRead = false) (lens.deliver bs)
      ((lens.watched name).deliver bs) := by
  refine Traces.bind (fun w => ?_) fun _ w => ?_
  · obtain ⟨made, hmakes, hwrites⟩ :=
      Watched.exists_makes_writeAll bs ⟨lens.view w.state, []⟩
    exact ⟨_, makes_run hmakes, List.forall_mem_map.mpr fun call hcall => ⟨rfl, hwrites call hcall⟩⟩
  · have hmakes : Makes [.flush] ⟨lens.view w.state, []⟩ (ByteStream.flush (lens.view w.state))
        (ByteStream.flush (⟨lens.view w.state, []⟩ : Watched Call σ)) := rfl
    exact ⟨_, makes_run hmakes, List.forall_mem_singleton.mpr ⟨rfl, rfl⟩⟩

end Lens

end DaqBus
