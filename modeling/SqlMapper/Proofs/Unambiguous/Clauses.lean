import SqlMapper.Proofs.Unambiguous.Leads

/-!
# What a clause tells

After its column a predicate goes on with one of a few words, of which none begins another one
(`Opening`), and a list or a sub-select ends with a bracket. So a predicate is told whatever follows
it (`Dialect.tells_predicate_of_child`), if a sub-select is told before the bracket. No keyword of a
select begins with a connector, which tells where the last clause ends
(`Dialect.tells_clauses_of_predicates`).
-/

namespace SqlMapper

/-- How a predicate goes on after its column. -/
inductive Opening where
  /-- With an operator and a placeholder. -/
  | comparison (operator : Operator)
  /-- With a null check. -/
  | nullCheck (negated : Bool)
  /-- With a list or a sub-select. -/
  | membership (negated : Bool)
deriving DecidableEq, Inhabited

namespace Opening

/-- The word of an opening. -/
def word : Opening → String
  | .comparison operator => " " ++ operator.sql ++ " ?"
  | .nullCheck negated => " IS" ++ Dialect.negation negated ++ " NULL"
  | .membership negated => Dialect.negation negated ++ " IN ("

/-- All openings. -/
def all : List Opening :=
  Operator.all.map .comparison ++
    [.nullCheck false, .nullCheck true, .membership false, .membership true]

/-- Every opening is listed. -/
theorem mem_all (o : Opening) : o ∈ all := by
  cases o with
  | comparison operator =>
    exact List.mem_append_left _ (List.mem_map_of_mem (Operator.mem_all operator))
  | nullCheck negated => cases negated <;> simp [all]
  | membership negated => cases negated <;> simp [all]

/-- An opening starts with a space. -/
theorem head?_word (o : Opening) (r : String) : (o.word ++ r).toList.head? = some ' ' := by
  cases o with
  | comparison operator => simp [word]
  | nullCheck negated => simp [word]
  | membership negated => cases negated <;> simp [word, Dialect.negation]

/-- No opening begins another one. -/
theorem apart {o o' : Opening} (h : o ≠ o') : Apart o.word o'.word := by
  have pairs : ∀ o ∈ all, ∀ o' ∈ all, o = o' ∨ Apart o.word o'.word := by decide +kernel
  exact (pairs o o.mem_all o' o'.mem_all).resolve_left h

end Opening

namespace Predicate

/-- Whether a predicate is an empty list. -/
def isConstant : Predicate Query → Bool
  | .among _ values _ => values.isEmpty
  | _ => false

/-- How the text of a predicate goes on after its column. -/
def opening : Predicate Query → Opening
  | .compare _ operator _ => .comparison operator
  | .nullCheck _ negated => .nullCheck negated
  | .among _ _ negated => .membership negated
  | .amongSelect _ _ negated => .membership negated

/-- How the text of a predicate ends after its opening. -/
def closing (d : Dialect) : Predicate Query → String
  | .among _ values _ => d.placeholders values.length ++ ")"
  | .amongSelect _ select _ => d.select select ++ ")"
  | _ => ""

/-- A predicate can be read back if its column is plain and its sub-select is legible. -/
structure Legible (d : Dialect) (p : Predicate Query) : Prop where
  column : d.Plain p.column
  child : ∀ child, p.child? = some child → child.Legible d

end Predicate

namespace Dialect

variable {d : Dialect}

/-- A select is told by its text, before the end of the statement or of a sub-select. -/
def TellsSelect (d : Dialect) (q : Query) : Prop :=
  Tells (Query.Legible d) (Follows []) d.select (fun q q' => q.shape = q'.shape) q

/-- A predicate is told by its text, whatever follows. -/
def TellsPredicate (d : Dialect) (p : Predicate Query) : Prop :=
  Tells (Predicate.Legible d) (fun _ => True) d.predicate
    (fun p p' => predicateShape p = predicateShape p') p

/-- A space may follow a name. -/
theorem endsName_of_space (hd : d.Readable) {r : String} (h : r.toList.head? = some ' ') :
    d.EndsName r := by
  intro c hc
  rw [h] at hc
  obtain rfl : ' ' = c := by simpa using hc
  exact ⟨(hd.quote_ne ' ' (by decide)).symm, by decide⟩

/-- A predicate is its column, its opening and its closing, unless it is an empty list. -/
theorem predicate_eq (hd : d.Readable) {p : Predicate Query} (h : p.isConstant = false) :
    d.predicate p = d.wrap p.column ++ (p.opening.word ++ p.closing d) := by
  cases p with
  | compare column operator value =>
    simp [predicate, Predicate.column, Predicate.opening, Opening.word, Predicate.closing,
      hd.placeholder, String.append_assoc]
  | nullCheck column negated =>
    simp [predicate, Predicate.column, Predicate.opening, Opening.word, Predicate.closing,
      String.append_assoc]
  | among column values negated =>
    have some_value : values.isEmpty = false := h
    simp [predicate, Predicate.column, Predicate.opening, Opening.word, Predicate.closing,
      some_value, String.append_assoc]
  | amongSelect column select negated =>
    simp [predicate, Predicate.column, Predicate.opening, Opening.word, Predicate.closing,
      String.append_assoc]

/-- An opening is told by its word. -/
theorem tells_opening (o : Opening) : Tells (fun _ => True) (fun _ => True) Opening.word Eq o :=
  tells_word fun _ _ h => Opening.apart h

/-- Of the two constants each is told by its text. -/
theorem tells_constant (negated : Bool) : Tells (fun _ => True) (fun _ => True)
    (fun negated => if negated then "1 = 1" else "0 = 1") Eq negated :=
  tells_word fun negated' _ h => by revert h; cases negated <;> cases negated' <;> decide

/-- An empty list is a constant. -/
theorem predicate_of_isConstant {p : Predicate Query} (h : p.isConstant = true) :
    ∃ negated, d.predicate p = (if negated then "1 = 1" else "0 = 1") ∧
      predicateShape p = .constant negated := by
  cases p with
  | among column values negated =>
    have empty : values.isEmpty = true := h
    exact ⟨negated, by rw [predicate, if_pos empty], by rw [predicateShape, if_pos empty]⟩
  | _ => cases h

/-- A constant does not look like a predicate about a column. -/
theorem constant_ne_predicate (hd : d.Readable) {p : Predicate Query} (h : p.isConstant = false)
    (column : d.Plain p.column) (negated : Bool) (r r' : String) :
    (if negated then "1 = 1" else "0 = 1") ++ r ≠ d.predicate p ++ r' := by
  intro heq
  have head := head?_wrap d column (p.opening.word ++ p.closing d ++ r')
  rw [← String.append_assoc, ← predicate_eq hd h, ← heq] at head
  have zero := hd.quote_ne '0' (by decide)
  have one := hd.quote_ne '1' (by decide)
  cases negated <;> simp [zero.symm, one.symm] at head

/-- A list that is not empty starts with a placeholder. -/
theorem head?_placeholders (hd : d.Readable) {n : Nat} (hn : n ≠ 0) (r : String) :
    (d.placeholders n ++ r).toList.head? = some '?' := by
  obtain ⟨m, rfl⟩ := Nat.exists_eq_succ_of_ne_zero hn
  rw [placeholders, hd.placeholder, List.replicate_succ]
  cases m <;> simp [List.replicate_succ]

/-- The placeholders of a list are told by the bracket after them. -/
theorem tells_placeholders (hd : d.Readable) {n : Nat} (hn : n ≠ 0) :
    Tells (fun n => n ≠ 0) (fun r => ∃ t, r = ")" ++ t) d.placeholders Eq n := by
  have units : Tells _ (fun r => ∃ t, r = ")" ++ t)
      (fun ys : List Unit => ", ".intercalate (ys.map fun _ => "?")) Eq (List.replicate n ()) :=
    Tells.intercalate (by simpa using hn)
      (fun _ _ _ (_ : True) r r' (_ : True) (_ : True) heq => ⟨rfl, by simpa using heq⟩)
      (fun _ => trivial) (fun _ _ => trivial) fun r ⟨t, hr⟩ t' heq =>
        (show Apart ")" ", " by decide).append_ne t t' (hr ▸ heq)
  intro m hm r r' hr hr' heq
  rw [placeholders, placeholders, hd.placeholder] at heq
  have some_unit : List.replicate m () ≠ [] := by simpa using hm
  obtain ⟨same, hrest⟩ :=
    units (List.replicate m ()) ⟨some_unit, by simp⟩ r r' hr hr' (by simpa using heq)
  exact ⟨by simpa using congrArg List.length same, hrest⟩

/-- A list of placeholders does not look like a sub-select. -/
theorem placeholders_ne_select (hd : d.Readable) {n : Nat} (hn : n ≠ 0) {q : Query}
    (legible : q.Legible d) (r r' : String) : d.placeholders n ++ r ≠ d.select q ++ r' := by
  intro heq
  have head := head?_placeholders hd hn r
  rw [heq, head?_select legible.joins] at head
  cases head

/-- The closing of a predicate tells the rest about it. -/
theorem tells_closing (hd : d.Readable) {p p' : Predicate Query} (hp : p.isConstant = false)
    (hp' : p'.isConstant = false) (legible : p.Legible d) (legible' : p'.Legible d)
    (children : ∀ child, p.child? = some child → d.TellsSelect child)
    (column : p.column = p'.column) (opening : p.opening = p'.opening) {r r' : String}
    (heq : p.closing d ++ r = p'.closing d ++ r') :
    predicateShape p = predicateShape p' ∧ r = r' := by
  cases p with
  | compare c operator value =>
    cases p' with
    | compare c' operator' value' =>
      obtain rfl : c = c' := column
      obtain rfl : operator = operator' := Opening.comparison.inj opening
      exact ⟨by rw [predicateShape, predicateShape], by simpa [Predicate.closing] using heq⟩
    | _ => cases opening
  | nullCheck c negated =>
    cases p' with
    | nullCheck c' negated' =>
      obtain rfl : c = c' := column
      obtain rfl : negated = negated' := Opening.nullCheck.inj opening
      exact ⟨by rw [predicateShape], by simpa [Predicate.closing] using heq⟩
    | _ => cases opening
  | among c values negated =>
    have some_value : values.isEmpty = false := hp
    have count : values.length ≠ 0 := by simpa using some_value
    cases p' with
    | among c' values' negated' =>
      have some_value' : values'.isEmpty = false := hp'
      have count' : values'.length ≠ 0 := by simpa using some_value'
      obtain rfl : c = c' := column
      obtain rfl : negated = negated' := Opening.membership.inj opening
      simp only [Predicate.closing, String.append_assoc] at heq
      obtain ⟨hcount, hrest⟩ := tells_placeholders hd count _ count' _ _ ⟨r, rfl⟩ ⟨r', rfl⟩ heq
      refine ⟨?_, by simpa using hrest⟩
      rw [predicateShape, predicateShape, if_neg (by simp [some_value]),
        if_neg (by simp [some_value']), hcount]
    | amongSelect c' select' negated' =>
      simp only [Predicate.closing, String.append_assoc] at heq
      exact absurd heq (placeholders_ne_select hd count (legible'.child select' rfl) _ _)
    | _ => cases opening
  | amongSelect c select negated =>
    cases p' with
    | amongSelect c' select' negated' =>
      obtain rfl : c = c' := column
      obtain rfl : negated = negated' := Opening.membership.inj opening
      simp only [Predicate.closing, String.append_assoc] at heq
      obtain ⟨hshape, hrest⟩ := children select rfl select' (legible'.child select' rfl) _ _
        (.inr (.inl ⟨r, rfl⟩)) (.inr (.inl ⟨r', rfl⟩)) heq
      refine ⟨?_, by simpa using hrest⟩
      rw [predicateShape, predicateShape, hshape]
    | among c' values' negated' =>
      have some_value' : values'.isEmpty = false := hp'
      have count' : values'.length ≠ 0 := by simpa using some_value'
      simp only [Predicate.closing, String.append_assoc] at heq
      exact absurd heq.symm (placeholders_ne_select hd count' (legible.child select rfl) _ _)
    | _ => cases opening

/-- A predicate is told by its text, whatever follows, if its sub-select is told. -/
theorem tells_predicate_of_child (hd : d.Readable) {p : Predicate Query} (legible : p.Legible d)
    (children : ∀ child, p.child? = some child → d.TellsSelect child) :
    d.TellsPredicate p := by
  intro p' legible' r r' _ _ heq
  show predicateShape p = predicateShape p' ∧ r = r'
  cases hp : p.isConstant with
  | true =>
    obtain ⟨negated, htext, hshape⟩ := predicate_of_isConstant hp
    cases hp' : p'.isConstant with
    | true =>
      obtain ⟨negated', htext', hshape'⟩ := predicate_of_isConstant hp'
      rw [htext, htext'] at heq
      obtain ⟨rfl, hrest⟩ := tells_constant negated negated' trivial r r' trivial trivial heq
      exact ⟨hshape.trans hshape'.symm, hrest⟩
    | false =>
      rw [htext] at heq
      exact absurd heq (constant_ne_predicate hd hp' legible'.column negated r r')
  | false =>
    cases hp' : p'.isConstant with
    | true =>
      obtain ⟨negated', htext', -⟩ := predicate_of_isConstant hp'
      rw [htext'] at heq
      exact absurd heq.symm (constant_ne_predicate hd hp legible.column negated' r' r)
    | false =>
      have after (p : Predicate Query) (r : String) :
          d.EndsName (p.opening.word ++ (p.closing d ++ r)) :=
        endsName_of_space hd (p.opening.head?_word _)
      simp only [predicate_eq hd hp, predicate_eq hd hp', String.append_assoc] at heq
      obtain ⟨column, hopening⟩ :=
        tells_wrap hd legible.column _ legible'.column _ _ (after p r) (after p' r') heq
      obtain ⟨opening, hclosing⟩ :=
        tells_opening p.opening p'.opening trivial _ _ trivial trivial hopening
      exact tells_closing hd hp hp' legible legible' children column opening hclosing

/-- A connector is told by its word. -/
theorem tells_connector (c : Connector) : Tells (fun _ => True) (fun _ => True)
    (fun c : Connector => " " ++ c.sql ++ " ") Eq c :=
  tells_word fun c' _ h => by revert h; cases c <;> cases c' <;> decide

/-- No part of a select begins with a connector. -/
theorem follows_ne_connector {r : String} (hr : Follows SelectPart.all r) (c : Connector)
    (t : String) : r ≠ " " ++ c.sql ++ " " ++ t := by
  refine hr.ne (by cases c <;> decide) (by cases c <;> decide) (fun p _ => ?_) t
  cases c <;> cases p <;> decide

/-- Clauses that follow another one, the first of them taken apart. -/
theorem connected_append (c : Clause Query) (rest : List (Clause Query)) (r : String) :
    d.connected (c :: rest) ++ r = " " ++ c.connector.sql ++ " " ++
      (d.predicate c.predicate ++ (d.connected rest ++ r)) := by
  rw [connected]
  simp only [String.append_assoc]

/-- Clauses that follow another one are told if their predicates are. -/
theorem tells_connected_of_predicates {cs : List (Clause Query)}
    (predicates : ∀ c ∈ cs, d.TellsPredicate c.predicate) :
    Tells (fun cs => ∀ c ∈ cs, c.predicate.Legible d) (Follows SelectPart.all) d.connected
      (fun cs cs' => connectedShape cs = connectedShape cs') cs := by
  induction cs with
  | nil =>
    intro cs' _ r r' hr _ heq
    cases cs' with
    | nil => exact ⟨rfl, by simpa [connected] using heq⟩
    | cons c' rest' =>
      rw [connected_append] at heq
      exact absurd (by simpa [connected] using heq) (follows_ne_connector hr c'.connector _)
  | cons c rest ih =>
    intro cs' legible' r r' hr hr' heq
    cases cs' with
    | nil =>
      rw [connected_append] at heq
      exact absurd (by simpa [connected] using heq.symm) (follows_ne_connector hr' c.connector _)
    | cons c' rest' =>
      rw [connected_append, connected_append] at heq
      obtain ⟨connector, hnext⟩ :=
        tells_connector c.connector c'.connector trivial _ _ trivial trivial heq
      obtain ⟨predicate, hrest⟩ := predicates c List.mem_cons_self c'.predicate
        (legible' c' List.mem_cons_self) _ _ trivial trivial hnext
      obtain ⟨others, hend⟩ := ih (fun x hx => predicates x (List.mem_cons_of_mem c hx)) rest'
        (fun x hx => legible' x (List.mem_cons_of_mem c' hx)) r r' hr hr' hrest
      refine ⟨?_, hend⟩
      show connectedShape (⟨c.connector, c.predicate⟩ :: rest) =
        connectedShape (⟨c'.connector, c'.predicate⟩ :: rest')
      rw [connectedShape, connectedShape, connector, predicate, others]

/-- Clauses are told if their predicates are. -/
theorem tells_clauses_of_predicates {cs : List (Clause Query)} (hne : cs ≠ [])
    (predicates : ∀ c ∈ cs, d.TellsPredicate c.predicate) :
    Tells (fun cs => cs ≠ [] ∧ ∀ c ∈ cs, c.predicate.Legible d) (Follows SelectPart.all) d.clauses
      (fun cs cs' => clausesShape cs = clausesShape cs') cs := by
  rintro cs' ⟨hne', legible'⟩ r r' hr hr' heq
  obtain ⟨⟨connector, first⟩, rest, rfl⟩ := List.exists_cons_of_ne_nil hne
  obtain ⟨⟨connector', first'⟩, rest', rfl⟩ := List.exists_cons_of_ne_nil hne'
  rw [clauses, clauses, String.append_assoc, String.append_assoc] at heq
  obtain ⟨predicate, hrest⟩ := predicates _ List.mem_cons_self first'
    (legible' _ List.mem_cons_self) _ _ trivial trivial heq
  obtain ⟨others, hend⟩ := tells_connected_of_predicates
    (fun x hx => predicates x (List.mem_cons_of_mem _ hx)) rest'
    (fun x hx => legible' x (List.mem_cons_of_mem _ hx)) r r' hr hr' hrest
  refine ⟨?_, hend⟩
  show clausesShape (⟨connector, first⟩ :: rest) = clausesShape (⟨connector', first'⟩ :: rest')
  rw [clausesShape, clausesShape, predicate, others]

end Dialect

end SqlMapper
