import DaqBus.Stream.Basic
/-!
Streams that live inside a larger state: a lens finds the stream in the state and puts it back.
-/

namespace DaqBus

/-- Operations on a state that can fail with a code; a failed operation may still have changed the
state. -/
abbrev StoreM (S : Type) := ExceptT Errno (StateM S)

structure Lens (S σ : Type) where
  view : S → σ
  put : σ → S → S

namespace Lens

variable {S σ α : Type}

/-- Runs a stream operation on the stream inside. -/
def run (lens : Lens S σ) (operation : σ → Except Fault α × σ) : StoreM S α := do
  let state ← get
  let (outcome, stream) := operation (lens.view state)
  set (lens.put stream state)
  match outcome with
  | .ok value => return value
  | .error fault => throw fault.errno

variable [ByteStream σ]

def readUpTo (lens : Lens S σ) (limit : Nat) : StoreM S Bytes :=
  lens.run (ByteStream.readUpTo limit)

def writeAll (lens : Lens S σ) (bs : Bytes) : StoreM S Unit :=
  lens.run (ByteStream.writeAll bs)

def flush (lens : Lens S σ) : StoreM S Unit :=
  lens.run ByteStream.flush

end Lens

end DaqBus
