/-
Module: CodeGauge.Render.Registry
Purpose: Things that are looked up by the name of a format.
Main exports:
  Registry, Registry.ofSlots, Registry.find?, Registry.sorted, Registry.ofList, Registry.get?,
  Registry.formats
-/
import CodeGauge.Text.Blank
import CodeGauge.Text.LowerCase

namespace CodeGauge.Render

open CodeGauge.Text

/-!
Things are registered under a format's name, compared in lower case; of two that clash the one
registered last stays.  A lookup passes over white space around the name it is given.  The list is
ordered by the names as they were registered.
-/

/-- Registered things with the names they were registered under, of which no two are equal in lower
case.  They stand in no order that matters. -/
structure Registry (α : Type) where
  entries : List (Bytes × α)
  apart : entries.Pairwise fun a b => lowerBytes a.1 ≠ lowerBytes b.1
deriving Repr

namespace Registry

variable {α : Type}

/-- Nothing is registered. -/
def empty : Registry α := ⟨[], .nil⟩

instance : Inhabited (Registry α) := ⟨empty⟩

/-- What stays registered when something is registered under a name. -/
def besides (r : Registry α) (name : Bytes) : List (Bytes × α) :=
  r.entries.filter fun e => lowerBytes e.1 != lowerBytes name

theorem mem_besides {r : Registry α} {name : Bytes} {e : Bytes × α} :
    e ∈ r.besides name ↔ e ∈ r.entries ∧ lowerBytes e.1 ≠ lowerBytes name := by
  rw [besides, List.mem_filter, bne_iff_ne]

/-- Register one more thing. -/
def register (r : Registry α) (entry : Bytes × α) : Registry α where
  entries := r.besides entry.1 ++ [entry]
  apart := by
    refine List.pairwise_append.2 ⟨r.apart.filter _, List.pairwise_singleton _ _, ?_⟩
    intro e member last isLast
    rw [List.mem_singleton.1 isLast]
    exact (mem_besides.1 member).2

/-- Register what is in a slot, if there is something. -/
def registerSlot (r : Registry α) : Option (Bytes × α) → Registry α
  | none => r
  | some entry => r.register entry

/-- Register what is in the slots, in order. -/
def ofSlots (slots : List (Option (Bytes × α))) : Registry α := slots.foldl registerSlot empty

/-- What is registered under a name. -/
def find? (r : Registry α) (name : Bytes) : Option (Bytes × α) :=
  r.entries.find? fun e => lowerBytes e.1 == lowerBytes (trimBytes name)

/-- Everything registered, in the order of the names. -/
def sorted (r : Registry α) : List (Bytes × α) :=
  r.entries.mergeSort fun a b => decide (a.1 ≤ b.1)

/-! ### Names that are texts -/

/-- Register things in order. -/
def ofList (entries : List (String × α)) : Registry α :=
  ofSlots (entries.map fun e => some (Utf8.encode e.1, e.2))

/-- An entry with its name as a text. -/
def named (e : Bytes × α) : String × α := (Utf8.decodeText e.1, e.2)

/-- What is registered under a name. -/
def get? (r : Registry α) (format : String) : Option (String × α) :=
  (r.find? (Utf8.encode format)).map named

/-- The registered names in order. -/
def formats (r : Registry α) : List String := r.sorted.map fun e => (named e).1

end Registry

end CodeGauge.Render
