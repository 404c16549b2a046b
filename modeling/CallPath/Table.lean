/-!
# Finite tables

A table binds keys to values; its bindings keep the order in which the keys first came.
-/

namespace CallPath

/-- Bindings of keys to values. -/
structure Table (κ ν : Type) where
  bindings : List (κ × ν) := []
  deriving DecidableEq, Repr

namespace Table

variable {κ ν : Type} [DecidableEq κ]

/-- The value of the first binding of a key. -/
def findIn (k : κ) : List (κ × ν) → Option ν
  | [] => none
  | b :: bs => if k = b.1 then some b.2 else findIn k bs

/-- The bindings with the key bound to the value, in its place or at the end. -/
def insertIn (k : κ) (v : ν) : List (κ × ν) → List (κ × ν)
  | [] => [(k, v)]
  | b :: bs => if k = b.1 then (k, v) :: bs else b :: insertIn k v bs

/-- The value bound to a key. -/
def get? (t : Table κ ν) (k : κ) : Option ν :=
  findIn k t.bindings

/-- Binds the key to the value. -/
def insert (t : Table κ ν) (k : κ) (v : ν) : Table κ ν :=
  ⟨insertIn k v t.bindings⟩

/-- Removes every binding of the key. -/
def erase (t : Table κ ν) (k : κ) : Table κ ν :=
  ⟨t.bindings.filter fun b => b.1 ≠ k⟩

/-- The bound values, in order. -/
def values (t : Table κ ν) : List ν :=
  t.bindings.map Prod.snd

theorem findIn_insertIn (k : κ) (v : ν) (bs : List (κ × ν)) (k' : κ) :
    findIn k' (insertIn k v bs) = if k' = k then some v else findIn k' bs := by
  induction bs with
  | nil => rfl
  | cons b bs ih =>
    by_cases hb : k = b.1
    · subst hb
      by_cases h : k' = b.1 <;> simp [insertIn, findIn, h]
    · by_cases h : k' = b.1
      · have hne : ¬ k' = k := fun e => hb (e ▸ h)
        rw [insertIn, if_neg hb, findIn, if_pos h, if_neg hne, findIn, if_pos h]
      · simp [insertIn, hb, findIn, h, ih]

@[simp] theorem get?_insert (t : Table κ ν) (k : κ) (v : ν) (k' : κ) :
    (t.insert k v).get? k' = if k' = k then some v else t.get? k' :=
  findIn_insertIn k v t.bindings k'

theorem findIn_filter_ne (k : κ) (bs : List (κ × ν)) (k' : κ) :
    findIn k' (bs.filter fun b => b.1 ≠ k) = if k' = k then none else findIn k' bs := by
  induction bs with
  | nil => simp [findIn]
  | cons b bs ih =>
    by_cases hb : b.1 = k
    · rw [List.filter_cons_of_neg (by simp [hb]), ih]
      by_cases h : k' = k
      · simp [h]
      · simp [h, findIn, hb]
    · rw [List.filter_cons_of_pos (by simp [hb]), findIn, ih, findIn]
      by_cases h : k' = b.1
      · have hne : ¬ k' = k := fun e => hb (h ▸ e)
        simp [h, hb]
      · simp [h]

@[simp] theorem get?_erase (t : Table κ ν) (k k' : κ) :
    (t.erase k).get? k' = if k' = k then none else t.get? k' :=
  findIn_filter_ne k t.bindings k'

end Table

end CallPath
