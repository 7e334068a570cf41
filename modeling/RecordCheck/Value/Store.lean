import RecordCheck.Value.Basic

/-!
# Making functions and symbols

Identities come from a store, which hands out each of them once and remembers
what its functions compute. Symbols are numbered in 64 bits.
-/

namespace RecordCheck

/-- What has been made so far: how many symbols, and the functions by identity. -/
structure Store where
  symbols : UInt64 := 0
  functions : Array (List Value → Value) := #[]

namespace Store

/-- A new function under a name, or an anonymous one. -/
def newFunction (store : Store) (name : Option String) (body : List Value → Value) :
    Callable × Store :=
  (⟨store.functions.size, name⟩, { store with functions := store.functions.push body })

/-- A new symbol, with a description or without. -/
def newSymbol (store : Store) (description : Option String) : Symbol × Store :=
  (⟨store.symbols, description⟩, { store with symbols := store.symbols + 1 })

/-- The result of a function of this store. -/
def call? (store : Store) (f : Callable) (arguments : List Value) : Option Value :=
  store.functions[f.identity]?.map fun body => body arguments

theorem call?_newFunction (store : Store) (name : Option String) (body : List Value → Value)
    (arguments : List Value) :
    (store.newFunction name body).2.call? (store.newFunction name body).1 arguments =
      some (body arguments) := by
  simp [newFunction, call?]

end Store

end RecordCheck
