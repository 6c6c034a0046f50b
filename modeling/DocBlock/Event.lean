import DocBlock.Text.Basic

/-!
# Events

What an extraction reports while it runs, in order: each file before it is read, each inclusion
before it is followed, and each source file with a comment once it is done. A watch reports what
makes it extract again, and what fails.
-/

namespace DocBlock

/-- Something that an extraction or a watch reports. -/
inductive Event where
  /-- The file `path` is about to be read, with `depth` levels of inclusion to go. -/
  | loading (path : Text) (depth : Int)
  /-- A `@detail` tag of `source` is about to be replaced by the comments of `target`. -/
  | including (source target : Text)
  /-- The file `path` gave `count` comments. -/
  | scanned (path : Text) (count : Nat)
  /-- So many files are watched from now on. -/
  | watching (files : Nat)
  /-- The watched file `path` was written, and is about to be extracted again. -/
  | sourceChanged (path : Text)
  /-- The extraction after a change of `path` failed. -/
  | extractFailed (path message : Text)
  /-- The watcher has a fault. -/
  | watchFaulted (message : Text)
  deriving DecidableEq, Repr

/-- A computation that reports events and then succeeds or fails. -/
structure Traced (ε α : Type) where
  /-- The events reported, in order. -/
  events : List Event
  /-- The result. -/
  result : Except ε α

namespace Traced

/-- Succeed without an event. -/
def pure {ε α : Type} (a : α) : Traced ε α := ⟨[], .ok a⟩

/-- Run one computation after another; a failure ends the run. -/
def bind {ε α β : Type} (x : Traced ε α) (f : α → Traced ε β) : Traced ε β :=
  match x.result with
  | .ok a => ⟨x.events ++ (f a).events, (f a).result⟩
  | .error e => ⟨x.events, .error e⟩

instance {ε : Type} : Monad (Traced ε) where
  pure := Traced.pure
  bind := Traced.bind

/-- Report one event. -/
def report {ε : Type} (event : Event) : Traced ε Unit := ⟨[event], .ok ()⟩

/-- Succeed or fail without an event. -/
def ofExcept {ε α : Type} (result : Except ε α) : Traced ε α := ⟨[], result⟩

/-- Change what a failure says. -/
def mapError {ε δ α : Type} (f : ε → δ) (x : Traced ε α) : Traced δ α :=
  ⟨x.events, x.result.mapError f⟩

end Traced

end DocBlock
