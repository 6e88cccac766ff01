-- SUMMARY: Programs over socket objects: construction, methods, destruction and the implicit copies.
import Mathlib.Data.List.AList
import WinShell.Sockets

/-!
# Programs over socket objects

A program names its objects and acts on them one command at a time. The class
definitions declare neither a copy constructor nor a copy assignment, so both
exist and copy the three fields. An exception is caught by the program, which
goes on with its next command.

A command that C++ does not admit in the current state (a method of another
class, a second destruction) does nothing; `Command.applies` says when a command
is admitted.
-/

namespace WinShell

open Effect Sockets

structure Object where
  cls : SocketClass
  fields : Socket
  deriving DecidableEq

/-- The live objects, by name. -/
abbrev Objects := AList fun _ : Nat => Object

namespace Objects

variable {objects : Objects} {id id' : Nat} {object object' : Object}

theorem of_lookup_insert (h : (objects.insert id object).lookup id' = some object') :
    id' = id ∧ object' = object ∨ id' ≠ id ∧ objects.lookup id' = some object' := by
  rcases eq_or_ne id' id with rfl | hne
  · rw [AList.lookup_insert, Option.some.injEq] at h
    exact .inl ⟨rfl, h.symm⟩
  · rw [AList.lookup_insert_ne hne] at h
    exact .inr ⟨hne, h⟩

theorem of_lookup_erase (h : (objects.erase id).lookup id' = some object') :
    id' ≠ id ∧ objects.lookup id' = some object' := by
  rcases eq_or_ne id' id with rfl | hne
  · rw [AList.lookup_erase] at h
    cases h
  · rw [AList.lookup_erase_ne hne] at h
    exact ⟨hne, h⟩

end Objects

inductive Command where
  | construct (cls : SocketClass) (id : Nat) (storage : Socket)
  | invoke (id : Nat) (method : Method)
  | destroy (id : Nat)
  | copyConstruct (id source : Nat)
  | copyAssign (id source : Nat)
  deriving DecidableEq

namespace Command

/-- The command copies the fields of one object into another object. -/
def copies : Command → Bool
  | copyConstruct _ _ => true
  | copyAssign id source => id ≠ source
  | _ => false

/-- The objects that a command needs are live, and of the right class. -/
def applies (objects : Objects) : Command → Bool
  | construct _ id _ => (objects.lookup id).isNone
  | invoke id method => (objects.lookup id).any fun object => object.cls = method.cls
  | destroy id => (objects.lookup id).isSome
  | copyConstruct id source => (objects.lookup id).isNone && (objects.lookup source).isSome
  | copyAssign id source =>
    (objects.lookup id).any fun object =>
      (objects.lookup source).any fun object' => object.cls = object'.cls

def execute (objects : Objects) : Command → Win Objects
  | construct cls id storage =>
    match objects.lookup id with
    | some _ => return objects
    | none => do
      match ← cls.construct storage with
      | .ok this => return objects.insert id ⟨cls, this⟩
      | .error _ => return objects
  | invoke id method =>
    match objects.lookup id with
    | some object => do
      if object.cls = method.cls then
        let _ ← method.invoke object.fields
      return objects
    | none => return objects
  | destroy id =>
    match objects.lookup id with
    | some object => do
      object.cls.destroy object.fields
      return objects.erase id
    | none => return objects
  | copyConstruct id source =>
    match objects.lookup id, objects.lookup source with
    | none, some object => return objects.insert id object
    | _, _ => return objects
  | copyAssign id source =>
    match objects.lookup id, objects.lookup source with
    | some object, some object' =>
      if object.cls = object'.cls then return objects.insert id object'
      else return objects
    | _, _ => return objects

end Command

abbrev Program := List Command

namespace Program

def execute : Program → Objects → Win Objects
  | [], objects => return objects
  | c :: cs, objects => do
    let objects ← c.execute objects
    execute cs objects

/-- No command of the program copies one object into another. -/
def CopyFree (p : Program) : Prop := ∀ c ∈ p, c.copies = false

end Program

end WinShell
