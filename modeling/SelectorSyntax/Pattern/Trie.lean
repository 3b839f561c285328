/-!
# Sets of lists

A finite set of lists, kept so that lists with a common beginning share it: looking for a list compares each of
its members with the members that follow the same beginning, and not with whole lists.
-/

namespace SelectorSyntax

/-- A finite set of lists. -/
inductive Trie (α : Type)
  | nothing
  /-- The empty list, and the lists `beside` it. -/
  | done (beside : Trie α)
  /-- The lists that begin with `a` and go on as in `below`, and the lists `beside` them. -/
  | step (a : α) (below beside : Trie α)

namespace Trie

variable {α : Type}

/-- The set of one list. -/
def single : List α → Trie α
  | [] => done nothing
  | a :: as => step a (single as) nothing

variable [DecidableEq α]

/-- Whether a list is in the set. -/
def contains : Trie α → List α → Bool
  | nothing, _ => false
  | done _, [] => true
  | done beside, a :: as => beside.contains (a :: as)
  | step _ _ beside, [] => beside.contains []
  | step b below beside, a :: as => if a = b then below.contains as else beside.contains (a :: as)

/-- The set with one more list. -/
def insert : Trie α → List α → Trie α
  | nothing, l => single l
  | done beside, [] => done beside
  | done beside, a :: as => done (beside.insert (a :: as))
  | step b below beside, [] => step b below (beside.insert [])
  | step b below beside, a :: as =>
    if a = b then step b (below.insert as) beside else step b below (beside.insert (a :: as))

theorem contains_single (l m : List α) : (single l).contains m = decide (m = l) := by
  induction l generalizing m with
  | nil => cases m <;> simp [single, contains]
  | cons a as ih =>
    cases m with
    | nil => simp [single, contains]
    | cons b bs => by_cases h : b = a <;> simp [single, contains, h, ih]

theorem contains_insert (t : Trie α) (l m : List α) :
    (t.insert l).contains m = (decide (m = l) || t.contains m) := by
  induction t generalizing l m with
  | nothing => simp [insert, contains, contains_single]
  | done beside ih => cases l <;> cases m <;> simp [insert, contains, ih]
  | step b below beside ih₁ ih₂ =>
    cases l with
    | nil => cases m <;> simp [insert, contains, ih₂]
    | cons a as =>
      cases m with
      | nil => by_cases h : a = b <;> simp [insert, contains, h, ih₂]
      | cons c cs =>
        by_cases h : a = b <;> by_cases h' : c = b <;> simp_all [insert, contains]
        exact fun e => absurd e.symm h

end Trie

end SelectorSyntax
