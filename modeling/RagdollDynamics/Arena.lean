import RagdollDynamics.Handle

/-!
# Arenas

An arena owns the objects of one kind.  Objects are appended and never removed, so a handle keeps
naming the same object; a handle that has not been given out yet names nothing.
-/

namespace RagdollDynamics

/-- The objects that handles of kind `k` name, in order of creation. -/
structure Arena (k : HandleKind) (α : Type) where
  items : Array α

namespace Arena

variable {k : HandleKind} {α : Type}

def empty : Arena k α := ⟨#[]⟩

def size (a : Arena k α) : Nat := a.items.size

def find? (a : Arena k α) (h : Handle k) : Option α := a.items[h.index]?

def nextHandle (a : Arena k α) : Handle k := .ofIndex a.size

def push (a : Arena k α) (x : α) : Arena k α := ⟨a.items.push x⟩

/-- Changes the object that `h` names, if there is one. -/
def modify (a : Arena k α) (h : Handle k) (f : α → α) : Arena k α := ⟨a.items.modify h.index f⟩

/-- Changes the objects that a list of handles names, one after the other. -/
def modifyAll (a : Arena k α) (hs : List (Handle k)) (f : α → α) : Arena k α :=
  hs.foldl (fun a h => a.modify h f) a

def map (a : Arena k α) (f : α → α) : Arena k α := ⟨a.items.map f⟩

def toList (a : Arena k α) : List α := a.items.toList

/-! ### What each operation does to the objects that handles name -/

@[simp] theorem size_push (a : Arena k α) (x : α) : (a.push x).size = a.size + 1 := by
  simp [push, size]

@[simp] theorem size_modify (a : Arena k α) (h : Handle k) (f : α → α) :
    (a.modify h f).size = a.size := by
  simp [modify, size]

@[simp] theorem size_map (a : Arena k α) (f : α → α) : (a.map f).size = a.size := by
  simp [map, size]

@[simp] theorem size_modifyAll (a : Arena k α) (hs : List (Handle k)) (f : α → α) :
    (a.modifyAll hs f).size = a.size := by
  induction hs generalizing a with
  | nil => rfl
  | cons h hs ih => simpa [modifyAll] using ih (a.modify h f)

@[simp] theorem find?_map (a : Arena k α) (f : α → α) (h : Handle k) :
    (a.map f).find? h = (a.find? h).map f := by
  simp [map, find?]

theorem find?_modify (a : Arena k α) (h h' : Handle k) (f : α → α) :
    (a.modify h f).find? h' = if h = h' then (a.find? h').map f else a.find? h' := by
  simp only [modify, find?, Array.getElem?_modify, Handle.index_inj]

@[simp] theorem find?_modify_self (a : Arena k α) (h : Handle k) (f : α → α) :
    (a.modify h f).find? h = (a.find? h).map f := by
  simp [find?_modify]

theorem find?_modify_of_ne (a : Arena k α) {h h' : Handle k} (ne : h ≠ h') (f : α → α) :
    (a.modify h f).find? h' = a.find? h' := by
  simp [find?_modify, ne]

theorem find?_push (a : Arena k α) (x : α) (h : Handle k) :
    (a.push x).find? h = if h.index = a.size then some x else a.find? h := by
  by_cases last : h.index = a.size <;> simp_all [push, find?, size, Array.getElem?_push]

theorem find?_eq_none_iff (a : Arena k α) (h : Handle k) : a.find? h = none ↔ a.size ≤ h.index := by
  simp [find?, size]

end Arena

end RagdollDynamics
