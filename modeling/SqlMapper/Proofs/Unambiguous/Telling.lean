/-!
# What a text tells

A text that stands in a longer one can be read back if it shows by itself where it ends. For the
pieces of a statement this depends on what may come next: a number ends before anything that is no
digit, a quoted name before anything that is no quote character. `Tells` says that a text, followed
by a text that may follow it, shows what it was written for and where it ends, so that two longer
texts are equal only if they were written for the same and go on in the same way. Words of which
none begins another one need no care (`Apart`); the texts of a list can be read back if those of its
elements can, and neither a separator nor the end is taken for the other
(`Tells.intercalate`).
-/

namespace SqlMapper

/-- Neither of two texts begins with the other one. -/
def Apart (u w : String) : Prop :=
  ¬ u.toList <+: w.toList ∧ ¬ w.toList <+: u.toList
deriving Decidable

/-- Texts that are apart lead to different texts, whatever follows them. -/
theorem Apart.append_ne {u w : String} (h : Apart u w) (r t : String) : u ++ r ≠ w ++ t := by
  intro heq
  have chars : u.toList ++ r.toList = w.toList ++ t.toList := by
    rw [← String.toList_append, ← String.toList_append, heq]
  have first : u.toList <+: w.toList ++ t.toList := ⟨r.toList, chars⟩
  rcases List.prefix_or_prefix_of_prefix first (List.prefix_append _ _) with hp | hp
  · exact h.1 hp
  · exact h.2 hp

variable {α β : Type} {Good : α → Prop} {Stop : String → Prop} {text : α → String}
  {Same : α → α → Prop} {a : α}

/-- A text tells what it was written for. Take the text for a thing and the text for any good one,
each followed by a text that may follow. If the two together are equal then the things are the same
in the sense that is asked for, and so is what follows. -/
def Tells (Good : α → Prop) (Stop : String → Prop) (text : α → String) (Same : α → α → Prop)
    (a : α) : Prop :=
  ∀ b, Good b → ∀ r r', Stop r → Stop r' → text a ++ r = text b ++ r' → Same a b ∧ r = r'

namespace Tells

/-- Fewer things, fewer texts that may follow, and less that is told. -/
theorem imp {Good' : α → Prop} {Stop' : String → Prop} {Same' : α → α → Prop}
    (h : Tells Good Stop text Same a) (good : ∀ b, Good' b → Good b) (stop : ∀ r, Stop' r → Stop r)
    (same : ∀ b, Good' b → Same a b → Same' a b) : Tells Good' Stop' text Same' a := by
  intro b hb r r' hr hr' heq
  obtain ⟨hsame, hrest⟩ := h b (good b hb) r r' (stop r hr) (stop r' hr') heq
  exact ⟨same b hb hsame, hrest⟩

/-- A text that only looks at a part of a thing tells that part. -/
theorem comap {f : β → α} {b : β} (h : Tells Good Stop text Same (f b)) :
    Tells (fun b => Good (f b)) Stop (fun b => text (f b)) (fun b b' => Same (f b) (f b')) b :=
  fun b' hb' => h (f b') hb'

/-- Two texts one after the other tell both things, if the second one may follow the first. -/
theorem append {Mid : String → Prop} {text' : α → String} {Same' : α → α → Prop} (ha : Good a)
    (first : Tells Good Mid text Same a) (second : Tells Good Stop text' Same' a)
    (mid : ∀ b, Good b → ∀ r, Stop r → Mid (text' b ++ r)) :
    Tells Good Stop (fun a => text a ++ text' a) (fun a b => Same a b ∧ Same' a b) a := by
  intro b hb r r' hr hr' heq
  rw [String.append_assoc, String.append_assoc] at heq
  obtain ⟨hsame, hrest⟩ := first b hb _ _ (mid a ha r hr) (mid b hb r' hr') heq
  obtain ⟨hsame', hend⟩ := second b hb r r' hr hr' hrest
  exact ⟨⟨hsame, hsame'⟩, hend⟩

/-- A list that is not empty is told by the texts of its elements with separators between them, if a
separator may follow an element, the end may as well, and the end does not look like a separator. -/
theorem intercalate {Item : String → Prop} {sep : String} {xs : List α} (hne : xs ≠ [])
    (items : ∀ x ∈ xs, Tells Good Item text Eq x) (next : ∀ t, Item (sep ++ t))
    (last : ∀ r, Stop r → Item r) (apart : ∀ r, Stop r → ∀ t, r ≠ sep ++ t) :
    Tells (fun ys => ys ≠ [] ∧ ∀ y ∈ ys, Good y) Stop
      (fun ys => sep.intercalate (ys.map text)) Eq xs := by
  -- the text of a list with at least two elements: the first one, a separator and the others
  have more (x y : α) (ys : List α) (r : String) :
      sep.intercalate ((x :: y :: ys).map text) ++ r =
        text x ++ (sep ++ (sep.intercalate ((y :: ys).map text) ++ r)) := by
    simp only [List.map_cons, String.intercalate_cons_cons, String.append_assoc]
  induction xs with
  | nil => exact absurd rfl hne
  | cons x xs ih =>
    rintro ys ⟨hys, good⟩ r r' hr hr' heq
    obtain ⟨y, ys, rfl⟩ := List.exists_cons_of_ne_nil hys
    have hx : Tells Good Item text Eq x := items x List.mem_cons_self
    have hy : Good y := good y List.mem_cons_self
    cases xs with
    | nil =>
      cases ys with
      | nil =>
        obtain ⟨rfl, hend⟩ := hx y hy r r' (last r hr) (last r' hr') (by simpa using heq)
        exact ⟨rfl, hend⟩
      | cons y' ys =>
        rw [more] at heq
        obtain ⟨-, hend⟩ := hx y hy r _ (last r hr) (next _) (by simpa using heq)
        exact absurd hend (apart r hr _)
    | cons x' xs =>
      rw [more] at heq
      cases ys with
      | nil =>
        obtain ⟨-, hend⟩ := hx y hy _ r' (next _) (last r' hr') (by simpa using heq)
        exact absurd hend.symm (apart r' hr' _)
      | cons y' ys =>
        rw [more] at heq
        obtain ⟨rfl, hrest⟩ := hx y hy _ _ (next _) (next _) heq
        rw [String.append_right_inj] at hrest
        obtain ⟨hsame, hend⟩ := ih (List.cons_ne_nil _ _)
          (fun z hz => items z (List.mem_cons_of_mem _ hz)) (y' :: ys)
          ⟨List.cons_ne_nil _ _, fun z hz => good z (List.mem_cons_of_mem _ hz)⟩ r r' hr hr' hrest
        exact ⟨congrArg (x :: ·) hsame, hend⟩

end Tells

/-- A word is told by itself, whatever follows, if it is apart from all others. -/
theorem tells_word (apart : ∀ b, Good b → a ≠ b → Apart (text a) (text b)) :
    Tells Good (fun _ => True) text Eq a := by
  intro b hb r r' _ _ heq
  by_cases h : a = b
  · subst h
    exact ⟨rfl, (String.append_right_inj _).1 heq⟩
  · exact absurd heq ((apart b hb h).append_ne r r')

/-- A text is told by being made of characters of one kind, before anything that does not go on with
such a character. -/
theorem tells_span {kind : Char → Bool} (ha : Good a)
    (chars : ∀ b, Good b → ∀ c ∈ (text b).toList, kind c = true) :
    Tells Good (fun r => ∀ c ∈ r.toList.head?, kind c = false) text
      (fun a b => text a = text b) a := by
  have span (b : α) (hb : Good b) (r : String) (hr : ∀ c ∈ r.toList.head?, kind c = false) :
      (text b ++ r).toList.takeWhile kind = (text b).toList := by
    have nothing : r.toList.takeWhile kind = [] := by
      cases hcs : r.toList with
      | nil => rfl
      | cons c cs => exact List.takeWhile_cons_of_neg (by simp [hr c (by simp [hcs])])
    rw [String.toList_append, List.takeWhile_append_of_pos (chars b hb), nothing, List.append_nil]
  intro b hb r r' hr hr' heq
  have same : text a = text b := by
    rw [← String.toList_inj, ← span a ha r hr, ← span b hb r' hr', heq]
  rw [same, String.append_right_inj] at heq
  exact ⟨same, heq⟩

/-- A number is told by its digits, before anything that does not go on with a digit. -/
theorem tells_repr (n : Nat) :
    Tells (fun _ => True) (fun r => ∀ c ∈ r.toList.head?, c.isDigit = false) Nat.repr Eq n := by
  refine (tells_span trivial fun m _ c hc => ?_).imp (fun _ h => h) (fun _ h => h) fun m _ h => ?_
  · rw [Nat.toList_repr] at hc
    exact Nat.isDigit_of_mem_toDigits (by decide) (by decide) hc
  · have digits : Nat.toDigits 10 n = Nat.toDigits 10 m := by
      rw [← Nat.toList_repr, ← Nat.toList_repr, h]
    rw [← Nat.ofDigitChars_ten_toDigits (n := n), digits, Nat.ofDigitChars_ten_toDigits]

end SqlMapper
