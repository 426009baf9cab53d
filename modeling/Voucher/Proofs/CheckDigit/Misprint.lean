/-! Misprints of a list: one place holds something else, or two neighbours that differ have changed
places. A walk through the list that loses neither its state nor what it reads ends elsewhere after
a misprint. -/
namespace Voucher.CheckDigit

variable {α β σ : Type} {p q x y : List α}

/-- Somewhere in `x` stands `p`, and `y` has `q` in its place. -/
def Rewritten (p q x y : List α) : Prop :=
  ∃ before after, x = before ++ (p ++ after) ∧ y = before ++ (q ++ after)

/-- One place holds something else. -/
def Substituted (x y : List α) : Prop := ∃ a b, a ≠ b ∧ Rewritten [a] [b] x y

/-- Two neighbours that differ have changed places. -/
def Transposed (x y : List α) : Prop := ∃ a b, a ≠ b ∧ Rewritten [a, b] [b, a] x y

def Misprinted (x y : List α) : Prop := Substituted x y ∨ Transposed x y

theorem Rewritten.reverse (rewritten : Rewritten p q x y) :
    Rewritten p.reverse q.reverse x.reverse y.reverse := by
  obtain ⟨before, after, rfl, rfl⟩ := rewritten
  refine ⟨after.reverse, before.reverse, ?_, ?_⟩ <;> simp

theorem Misprinted.reverse (misprint : Misprinted x y) : Misprinted x.reverse y.reverse := by
  rcases misprint with ⟨a, b, differ, rewritten⟩ | ⟨a, b, differ, rewritten⟩
  · exact .inl ⟨a, b, differ, rewritten.reverse⟩
  · exact .inr ⟨b, a, differ.symm, rewritten.reverse⟩

/-- A list that is written sign by sign is rewritten where its text is. -/
theorem Rewritten.split_map {f : α → β} {p q y : List β} (rewritten : Rewritten p q (x.map f) y) :
    ∃ before p' after, x = before ++ (p' ++ after) ∧ p'.map f = p ∧
      y = before.map f ++ (q ++ after.map f) := by
  obtain ⟨before, after, left, rfl⟩ := rewritten
  obtain ⟨front, rest, rfl, rfl, rests⟩ := List.map_eq_append_iff.mp left
  obtain ⟨p', back, rfl, rfl, rfl⟩ := List.map_eq_append_iff.mp rests
  exact ⟨front, p', back, rfl, rfl, rfl⟩

theorem Rewritten.of_map {f : α → β} {p q : List β} (inj : ∀ a b, f a = f b → a = b)
    (rewritten : Rewritten p q (x.map f) (y.map f)) :
    ∃ p' q', p'.map f = p ∧ q'.map f = q ∧ Rewritten p' q' x y := by
  obtain ⟨front, p', back, rfl, written, right⟩ := rewritten.split_map
  obtain ⟨front', rest', rfl, fronts, rests⟩ := List.map_eq_append_iff.mp right
  obtain ⟨q', back', rfl, rfl, backs⟩ := List.map_eq_append_iff.mp rests
  obtain rfl := (List.map_inj_right inj).mp fronts
  obtain rfl := (List.map_inj_right inj).mp backs
  exact ⟨p', q', written, rfl, front', back', rfl, rfl⟩

theorem Substituted.of_map {f : α → β} (inj : ∀ a b, f a = f b → a = b)
    (substituted : Substituted (x.map f) (y.map f)) : Substituted x y := by
  obtain ⟨a, b, differ, rewritten⟩ := substituted
  obtain ⟨p, q, left, right, found⟩ := rewritten.of_map inj
  obtain ⟨c, rfl, rfl⟩ := List.map_eq_singleton_iff.mp left
  obtain ⟨d, rfl, rfl⟩ := List.map_eq_singleton_iff.mp right
  exact ⟨c, d, fun same => differ (congrArg f same), found⟩

/-- Neighbours that change places in a text do so in what it writes. -/
theorem Rewritten.swap_of_map {f : α → β} {a b : β} {y : List β}
    (rewritten : Rewritten [a, b] [b, a] (x.map f) y) :
    ∃ c d z, f c = a ∧ f d = b ∧ y = z.map f ∧ Rewritten [c, d] [d, c] x z := by
  obtain ⟨before, p, after, rfl, written, rfl⟩ := rewritten.split_map
  obtain ⟨c, rest, rfl, rfl, last⟩ := List.map_eq_cons_iff.mp written
  obtain ⟨d, rfl, rfl⟩ := List.map_eq_singleton_iff.mp last
  refine ⟨c, d, before ++ ([d, c] ++ after), rfl, rfl, ?_, before, after, rfl, rfl⟩
  simp

theorem Transposed.of_map {f : α → β} (inj : ∀ a b, f a = f b → a = b)
    (transposed : Transposed (x.map f) (y.map f)) : Transposed x y := by
  obtain ⟨a, b, differ, rewritten⟩ := transposed
  obtain ⟨c, d, z, rfl, rfl, written, found⟩ := rewritten.swap_of_map
  obtain rfl := (List.map_inj_right inj).mp written
  exact ⟨c, d, fun same => differ (congrArg f same), found⟩

theorem Misprinted.of_map {f : α → β} (inj : ∀ a b, f a = f b → a = b)
    (misprint : Misprinted (x.map f) (y.map f)) : Misprinted x y :=
  misprint.imp (Substituted.of_map inj) (Transposed.of_map inj)

/-- Where a walk ends that reads a list from place `i` on, starting in `s`. -/
def walk (step : Nat → σ → α → σ) (i : Nat) (s : σ) : List α → σ
  | [] => s
  | a :: rest => walk step (i + 1) (step i s a) rest

variable {step : Nat → σ → α → σ}

theorem walk_append (i : Nat) (s : σ) (x y : List α) :
    walk step i s (x ++ y) = walk step (i + x.length) (walk step i s x) y := by
  induction x generalizing i s with
  | nil => rfl
  | cons a x ih =>
      rw [List.cons_append, walk, ih, walk, List.length_cons]
      congr 1
      omega

/-- What has been read can be undone to the state before it. -/
theorem walk_inj (keeps : ∀ i a s t, step i s a = step i t a → s = t)
    (same : walk step i s x = walk step i t x) : s = t := by
  induction x generalizing i s t with
  | nil => exact same
  | cons a x ih => exact keeps i a s t (ih same)

/-- The walks part where the lists do, and never meet again. -/
theorem Rewritten.walk_eq_iff (keeps : ∀ i a s t, step i s a = step i t a → s = t)
    (rewritten : Rewritten p q x y) (even : p.length = q.length) (i : Nat) (s : σ) :
    ∃ j t, walk step i s x = walk step i s y ↔ walk step j t p = walk step j t q := by
  obtain ⟨before, after, rfl, rfl⟩ := rewritten
  refine ⟨i + before.length, walk step i s before, ?_⟩
  rw [walk_append, walk_append, walk_append, walk_append, even]
  constructor
  · exact walk_inj keeps
  · intro same
    rw [same]

/-- A walk that loses nothing: neither its state, nor what it reads, nor the order of neighbours. -/
structure Faithful (step : Nat → σ → α → σ) : Prop where
  state : ∀ i a s t, step i s a = step i t a → s = t
  letter : ∀ i s a b, step i s a = step i s b → a = b
  order : ∀ i s a b, step (i + 1) (step i s a) b = step (i + 1) (step i s b) a → a = b

theorem Faithful.walk_ne (faithful : Faithful step) (misprint : Misprinted x y) (i : Nat) (s : σ) :
    walk step i s x ≠ walk step i s y := by
  rcases misprint with ⟨a, b, differ, rewritten⟩ | ⟨a, b, differ, rewritten⟩
  · obtain ⟨j, t, iff⟩ := rewritten.walk_eq_iff faithful.state rfl i s
    exact fun same => differ (faithful.letter j t a b (iff.mp same))
  · obtain ⟨j, t, iff⟩ := rewritten.walk_eq_iff faithful.state rfl i s
    exact fun same => differ (faithful.order j t a b (iff.mp same))

end Voucher.CheckDigit
