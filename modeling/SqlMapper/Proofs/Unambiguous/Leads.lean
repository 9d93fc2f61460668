import SqlMapper.Dialect.Select
import SqlMapper.Proofs.Unambiguous.Shape

/-!
# The parts of a select and what they begin with

After its columns a select goes on with those of its other parts that apply, each after a space and
with a keyword (`Dialect.select_eq_leads`). So the text after a part is empty, or is the bracket
that ends a sub-select, or begins with the keyword of a later part (`Follows`). No keyword begins
another one, which shows whether a part is there (`Dialect.tells_lead`), and the parts together are
told if each of them is (`Dialect.tells_leads`).
-/

namespace SqlMapper

namespace SelectPart

/-- The keyword of a part. -/
def keyword : SelectPart → String
  | .columns => "SELECT "
  | .from_ => "FROM "
  | .joins => "JOIN "
  | .wheres => "WHERE "
  | .groups => "GROUP BY "
  | .havings => "HAVING "
  | .orders => "ORDER BY "
  | .limit => "LIMIT "
  | .offset => "OFFSET "

/-- The parts after the columns. -/
def afterColumns : List SelectPart :=
  all.tail

/-- Every other part comes after the columns. -/
theorem mem_afterColumns {p : SelectPart} (h : p ≠ .columns) : p ∈ afterColumns := by
  cases p with
  | columns => exact absurd rfl h
  | _ => decide

/-- No keyword begins another one. -/
theorem apart_keyword {p p' : SelectPart} (h : p ≠ p') :
    Apart (" " ++ p.keyword) (" " ++ p'.keyword) := by
  revert h
  cases p <;> cases p' <;> decide

/-- Whether a part does not apply to a query. -/
def isAbsent (q : Query) : SelectPart → Bool
  | .columns => false
  | .from_ => q.table == ""
  | .joins => q.joins.isEmpty
  | .wheres => q.wheres.isEmpty
  | .groups => q.groups.isEmpty
  | .havings => q.havings.isEmpty
  | .orders => q.orders.isEmpty
  | .limit => q.limit.isNone
  | .offset => q.offset.isNone

end SelectPart

/-- What may follow a part of a select: nothing, the end of a sub-select, or one of some other
parts. -/
def Follows (parts : List SelectPart) (r : String) : Prop :=
  r = "" ∨ (∃ t, r = ")" ++ t) ∨ ∃ p ∈ parts, ∃ t, r = " " ++ (p.keyword ++ t)

/-- More parts may follow. -/
theorem Follows.mono {parts parts' : List SelectPart} {r : String} (h : Follows parts r)
    (sub : parts ⊆ parts') : Follows parts' r :=
  h.imp_right fun h => h.imp_right fun ⟨p, hp, ht⟩ => ⟨p, sub hp, ht⟩

/-- What follows starts with a space or a bracket. -/
theorem Follows.head? {parts : List SelectPart} {r : String} (h : Follows parts r) {c : Char}
    (hc : c ∈ r.toList.head?) : c = ' ' ∨ c = ')' := by
  rcases h with rfl | ⟨t, rfl⟩ | ⟨p, -, t, rfl⟩
  · simp at hc
  · exact .inr (by simpa using hc.symm)
  · exact .inl (by simpa using hc.symm)

/-- What follows does not begin with a word that is apart from all that may follow. -/
theorem Follows.ne {parts : List SelectPart} {r : String} (h : Follows parts r) {word : String}
    (hword : word ≠ "") (bracket : Apart word ")")
    (keywords : ∀ p ∈ parts, Apart word (" " ++ p.keyword)) (t : String) : r ≠ word ++ t := by
  rintro rfl
  rcases h with h | ⟨t', h⟩ | ⟨p, hp, t', h⟩
  · exact hword (String.append_eq_empty_iff.1 h).1
  · exact bracket.append_ne t t' h
  · exact (keywords p hp).append_ne t t' (by rw [h, String.append_assoc])

namespace Dialect

variable {d : Dialect}

/-- The text of a part that applies, after its keyword. -/
def content (d : Dialect) (q : Query) : SelectPart → String
  | .columns => if q.columns.isEmpty then "*" else d.wrapAll q.columns
  | .from_ => d.wrap q.table
  | .joins => ""
  | .wheres => d.clauses q.wheres
  | .groups => d.wrapAll q.groups
  | .havings => d.clauses q.havings
  | .orders => ", ".intercalate (q.orders.map d.orderText)
  | .limit => Nat.repr (q.limit.getD 0)
  | .offset => Nat.repr (q.offset.getD 0)

/-- A part after the columns with the space before it, or nothing if it does not apply. -/
def lead (d : Dialect) (q : Query) (p : SelectPart) : String :=
  if p.isAbsent q then "" else " " ++ (p.keyword ++ d.content q p)

/-- Parts after the columns, one after another. -/
def leads (d : Dialect) (q : Query) : List SelectPart → String
  | [] => ""
  | p :: ps => d.lead q p ++ leads d q ps

/-- A part after the columns is empty if it does not apply, and starts with its keyword if it
does. -/
theorem part_eq {q : Query} (hjoins : q.joins = []) {p : SelectPart}
    (hp : p ∈ SelectPart.afterColumns) :
    d.part q p = if p.isAbsent q then "" else p.keyword ++ d.content q p := by
  cases p with
  | columns => exact absurd hp (by decide)
  | joins => simp [part, partText, hjoins, SelectPart.isAbsent]
  | limit =>
    cases h : q.limit <;>
      simp [part, partText, h, SelectPart.isAbsent, SelectPart.keyword, content]
  | offset =>
    cases h : q.offset <;>
      simp [part, partText, h, SelectPart.isAbsent, SelectPart.keyword, content]
  | _ => rfl

/-- Parts that are put together after a text, the empty ones left out. -/
theorem intercalate_parts (first : String) {q : Query} (hjoins : q.joins = [])
    {ps : List SelectPart} (hps : ps ⊆ SelectPart.afterColumns) :
    " ".intercalate (first :: (ps.map (d.part q)).filter (fun part => part != "")) =
      first ++ d.leads q ps := by
  induction ps generalizing first with
  | nil => simp [leads]
  | cons p ps ih =>
    have hp : p ∈ SelectPart.afterColumns := hps List.mem_cons_self
    have rest (first : String) := ih first fun x hx => hps (List.mem_cons_of_mem p hx)
    rw [List.map_cons, part_eq hjoins hp, leads, lead]
    cases p.isAbsent q with
    | true => simpa using rest first
    | false =>
      have some_text : p.keyword ++ d.content q p ≠ "" := by
        cases p <;> simp [SelectPart.keyword]
      rw [if_neg Bool.false_ne_true, if_neg Bool.false_ne_true,
        List.filter_cons_of_pos (by simpa using some_text), String.intercalate_cons_cons, rest]
      simp only [String.append_assoc]

/-- A select without joins is its columns and the other parts that apply. -/
theorem select_eq_leads {q : Query} (hjoins : q.joins = []) :
    d.select q = d.part q .columns ++ d.leads q SelectPart.afterColumns := by
  have columns : d.part q .columns ≠ "" := by
    cases h : q.distinct <;> simp [part, partText, h]
  rw [select_eq, ← intercalate_parts _ hjoins (List.Subset.refl _)]
  show " ".intercalate ((d.part q .columns :: SelectPart.afterColumns.map (d.part q)).filter
    (fun part => part != "")) = _
  rw [List.filter_cons_of_pos (by simpa using columns)]

/-- A select starts with its keyword. -/
theorem head?_select {q : Query} (hjoins : q.joins = []) (r : String) :
    (d.select q ++ r).toList.head? = some 'S' := by
  rw [select_eq_leads hjoins]
  cases h : q.distinct <;> simp [part, partText, h]

/-- What follows a part is what may follow, when the end of a select may follow the last one. -/
theorem follows_leads (q : Query) (ps : List SelectPart) {r : String} (hr : Follows [] r) :
    Follows ps (d.leads q ps ++ r) := by
  induction ps with
  | nil => simpa [leads] using hr
  | cons p ps ih =>
    rw [leads, lead]
    cases p.isAbsent q with
    | true => simpa using ih.mono (List.subset_cons_self p ps)
    | false =>
      refine .inr (.inr ⟨p, List.mem_cons_self, d.content q p ++ (d.leads q ps ++ r), ?_⟩)
      simp [String.append_assoc]

variable {Good : Query → Prop} {Same : SelectPart → Query → Query → Prop} {q : Query}

/-- A part is told before later parts: its keyword shows whether it is there, and its content what
it says. -/
theorem tells_lead {p : SelectPart} {later : List SelectPart} (hp : p ∉ later)
    (absent : ∀ q', p.isAbsent q = true → p.isAbsent q' = true → Same p q q')
    (content : p.isAbsent q = false → Tells (fun q' => Good q' ∧ p.isAbsent q' = false)
      (Follows SelectPart.all) (fun q' => d.content q' p) (Same p) q) :
    Tells Good (Follows later) (fun q' => d.lead q' p) (Same p) q := by
  -- what follows an absent part does not begin with the keyword of that part
  have apart (r t : String) (hr : Follows later r) : r ≠ " " ++ p.keyword ++ t := by
    have first : " " ++ p.keyword ≠ "" := by simp
    exact hr.ne first (by cases p <;> decide)
      (fun p' hp' => SelectPart.apart_keyword fun h => hp (h ▸ hp')) t
  have every (r : String) (hr : Follows later r) : Follows SelectPart.all r :=
    hr.mono fun p _ => by cases p <;> decide
  intro q' good' r r' hr hr' heq
  simp only [lead] at heq
  cases h : p.isAbsent q <;> cases h' : p.isAbsent q' <;>
    simp only [h, h', if_true, Bool.false_eq_true, if_false, String.empty_append] at heq
  · have hcontent : d.content q p ++ r = d.content q' p ++ r' := by
      simpa [String.append_assoc] using heq
    exact content h q' ⟨good', h'⟩ r r' (every r hr) (every r' hr') hcontent
  · exact absurd heq.symm (by simpa [String.append_assoc] using apart r' (d.content q p ++ r) hr')
  · exact absurd heq (by simpa [String.append_assoc] using apart r (d.content q' p ++ r') hr)
  · exact ⟨absent q' h h', heq⟩

/-- Parts one after another are told if each of them is. -/
theorem tells_leads {ps : List SelectPart} (hps : ps.Nodup) (hq : Good q)
    (absent : ∀ p ∈ ps, ∀ q', p.isAbsent q = true → p.isAbsent q' = true → Same p q q')
    (content : ∀ p ∈ ps, p.isAbsent q = false → Tells (fun q' => Good q' ∧ p.isAbsent q' = false)
      (Follows SelectPart.all) (fun q' => d.content q' p) (Same p) q) :
    Tells Good (Follows []) (fun q' => d.leads q' ps) (fun q q' => ∀ p ∈ ps, Same p q q') q := by
  induction ps with
  | nil =>
    intro q' _ r r' _ _ heq
    exact ⟨by simp, by simpa [leads] using heq⟩
  | cons p ps ih =>
    rw [List.nodup_cons] at hps
    have first : Tells Good (Follows ps) (fun q' => d.lead q' p) (Same p) q :=
      tells_lead hps.1 (absent p List.mem_cons_self) (content p List.mem_cons_self)
    have rest := ih hps.2 (fun p' h => absent p' (List.mem_cons_of_mem p h))
      fun p' h => content p' (List.mem_cons_of_mem p h)
    refine (first.append hq rest fun q' _ r hr => follows_leads q' ps hr).imp (fun _ h => h)
      (fun _ h => h) fun q' _ h => ?_
    exact List.forall_mem_cons.2 h

end Dialect

end SqlMapper
