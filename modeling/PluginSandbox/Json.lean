/-!
# JSON values

Numbers are either whole or kept as the bits of a double, and the two never compare equal. The
members of an object are in the order of their keys, so equality ignores the order of writing.
-/

namespace PluginSandbox

/-- A JSON value. `real` holds the bits of a finite double; the two zeros are one value, with the
bits of the positive one. -/
inductive Json where
  | null
  | bool (b : Bool)
  | int (n : Int)
  | real (bits : UInt64)
  | str (s : String)
  | arr (items : List Json)
  | obj (members : List (String × Json))
deriving Inhabited

namespace Json

/-! ## Equality -/

mutual

def beq : Json → Json → Bool
  | null, null => true
  | bool a, bool b => a == b
  | int a, int b => a == b
  | real a, real b => a == b
  | str a, str b => a == b
  | arr a, arr b => beqItems a b
  | obj a, obj b => beqMembers a b
  | _, _ => false

def beqItems : List Json → List Json → Bool
  | [], [] => true
  | a :: as, b :: bs => beq a b && beqItems as bs
  | _, _ => false

def beqMembers : List (String × Json) → List (String × Json) → Bool
  | [], [] => true
  | (k, a) :: as, (l, b) :: bs => k == l && beq a b && beqMembers as bs
  | _, _ => false

end

instance : BEq Json := ⟨beq⟩

mutual

theorem eq_of_beq_eq_true : ∀ {a b : Json}, beq a b = true → a = b
  | null, b, h => by cases b <;> simp_all [beq]
  | bool _, b, h => by cases b <;> simp_all [beq]
  | int _, b, h => by cases b <;> simp_all [beq]
  | real _, b, h => by cases b <;> simp_all [beq]
  | str _, b, h => by cases b <;> simp_all [beq]
  | arr as, b, h => by
    cases b with
    | arr bs => rw [beq] at h; rw [eq_of_beqItems h]
    | _ => simp [beq] at h
  | obj as, b, h => by
    cases b with
    | obj bs => rw [beq] at h; rw [eq_of_beqMembers h]
    | _ => simp [beq] at h

theorem eq_of_beqItems : ∀ {as bs : List Json}, beqItems as bs = true → as = bs
  | [], bs, h => by cases bs <;> simp_all [beqItems]
  | a :: as, bs, h => by
    cases bs with
    | nil => simp [beqItems] at h
    | cons b bs =>
      simp only [beqItems, Bool.and_eq_true] at h
      rw [eq_of_beq_eq_true h.1, eq_of_beqItems h.2]

theorem eq_of_beqMembers : ∀ {as bs : List (String × Json)}, beqMembers as bs = true → as = bs
  | [], bs, h => by cases bs <;> simp_all [beqMembers]
  | (k, a) :: as, bs, h => by
    cases bs with
    | nil => simp [beqMembers] at h
    | cons b bs =>
      obtain ⟨l, b⟩ := b
      simp only [beqMembers, Bool.and_eq_true, beq_iff_eq] at h
      rw [h.1.1, eq_of_beq_eq_true h.1.2, eq_of_beqMembers h.2]

end

mutual

theorem beq_self : ∀ a : Json, beq a a = true
  | null | bool _ | int _ | real _ | str _ => by simp [beq]
  | arr as => by simp [beq, beqItems_self as]
  | obj as => by simp [beq, beqMembers_self as]

theorem beqItems_self : ∀ as : List Json, beqItems as as = true
  | [] => by simp [beqItems]
  | a :: as => by simp [beqItems, beq_self a, beqItems_self as]

theorem beqMembers_self : ∀ as : List (String × Json), beqMembers as as = true
  | [] => by simp [beqMembers]
  | (_, a) :: as => by simp [beqMembers, beq_self a, beqMembers_self as]

end

instance : LawfulBEq Json where
  eq_of_beq := eq_of_beq_eq_true
  rfl := beq_self _

instance : DecidableEq Json := fun a b => decidable_of_iff (a == b) beq_iff_eq

/-! ## Objects -/

def insertMember (key : String) (value : Json) : List (String × Json) → List (String × Json)
  | [] => [(key, value)]
  | (k, v) :: rest =>
    if key = k then (key, value) :: rest
    else if key < k then (key, value) :: (k, v) :: rest
    else (k, v) :: insertMember key value rest

/-- An object of the given members, of which the last of a key counts. -/
def object (members : List (String × Json)) : Json :=
  obj (members.foldl (fun acc m => insertMember m.1 m.2 acc) [])

def get? (key : String) : Json → Option Json
  | obj members => members.lookup key
  | _ => none

/-! ## Leaves -/

def nat (n : Nat) : Json :=
  int n

def strs (items : List String) : Json :=
  arr (items.map str)

def ofOption {α : Type} (f : α → Json) : Option α → Json
  | some a => f a
  | none => null

/-- A whole number from 0 to 2^64 - 1. -/
def word? : Json → Option UInt64
  | int n => if 0 ≤ n ∧ n < UInt64.size then some (UInt64.ofNat n.toNat) else none
  | _ => none

def str? : Json → Option String
  | str s => some s
  | _ => none

end Json

end PluginSandbox
