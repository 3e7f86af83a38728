import PixelPanel.Json.Document
import PixelPanel.Proofs.PrintedTokens

/-!
# Documents read back

A value that is printed is read as the value that it is, if there is room for its containers, its numbers
are integers that are not too long, and no object has a name twice.
-/

namespace PixelPanel.Json

/-- A value can be told exactly, with at most some containers inside of each other: its numbers are integers
that are not too long, no half of a surrogate pair stands in it, and no object has a name twice. -/
inductive Value.IsPlain : ℕ → Value → Prop
  | null {depth : ℕ} : IsPlain depth .null
  | bool {depth : ℕ} (value : Bool) : IsPlain depth (.bool value)
  | integer {depth : ℕ} {value : ℤ}
    (h : (Nat.toDigits 10 value.natAbs).length ≤ Text.maxIntegerDigits) : IsPlain depth (.integer value)
  | text {depth : ℕ} (written : String) : IsPlain depth (.text (points written))
  | list {depth : ℕ} {items : List Value} (h : ∀ item ∈ items, IsPlain depth item) :
    IsPlain (depth + 1) (.list items)
  | object {depth : ℕ} {members : List (Points × Value)} (hnames : (members.map Prod.fst).Nodup)
    (htexts : ∀ member ∈ members, ∃ name : String, member.1 = points name)
    (h : ∀ member ∈ members, IsPlain depth member.2) : IsPlain (depth + 1) (.object members)

namespace Progress

/-- A value can come, and goes into the containers around it. -/
inductive AwaitsValue : Progress → List Opened → Prop
  | first {outer : List Opened} : AwaitsValue (beforeItem outer) (.list [] :: outer)
  | next {outer : List Opened} : AwaitsValue (beforeValue outer) outer

/-- The name of the next member of an object can come. -/
inductive AwaitsName (outer : List Opened) : Progress → List (Points × Value) → Prop
  | first : AwaitsName outer (beforeMember outer) []
  | next {members : List (Points × Value)} : AwaitsName outer (beforeName members outer) members

/-- Reading a text leads from one progress to another one if something suitable comes behind it, by no more
tokens than it has characters. -/
def Passes (room : ℕ) (before : Progress) (text : List Char) (after : Progress)
    (Next : List Char → Prop) : Prop :=
  ∃ count ≤ text.length, ∀ more rest, Next rest →
    before.readAll room (tokensUpTo (count + more) (text ++ rest)) =
      after.readAll room (tokensUpTo more rest)

end Progress
end PixelPanel.Json

namespace PixelPanel.Proofs
open Json Json.Progress

variable {room level depth : ℕ} {before middle after first : Progress} {text later written : List Char}
  {Next Last : List Char → Prop} {token : Token} {outer : List Opened} {value : Value}
  {name : String} {items : List Value} {members : List (Points × Value)}

/-! ### Steps -/

lemma tokensUpTo_blanks {count : ℕ} {blanks : List Char} (h : ∀ c ∈ blanks, Json.isBlank c = true) :
    tokensUpTo count (blanks ++ text) = tokensUpTo count text := by
  cases count with
  | zero => rfl
  | succ count => rw [tokensUpTo, tokensUpTo, List.dropWhile_append_of_pos h]

lemma passes_blanks {blanks : List Char} (h : ∀ c ∈ blanks, Json.isBlank c = true) :
    Passes room before blanks before fun _ => True := by
  refine ⟨0, Nat.zero_le _, fun more rest _ => ?_⟩
  rw [Nat.zero_add, tokensUpTo_blanks h]

lemma passes_token (h : token.IsWritten written Next)
    (hadvance : ∀ left, before.advance room left token = .ok after) :
    Passes room before written after Next := by
  obtain ⟨c, later, rfl, hblank, hread⟩ := h
  refine ⟨1, Nat.succ_le_succ (Nat.zero_le _), fun more rest hrest => ?_⟩
  have hstop : (c :: (later ++ rest)).dropWhile Json.isBlank = c :: (later ++ rest) :=
    List.dropWhile_cons_of_neg (Bool.eq_false_iff.mp hblank)
  rw [Nat.add_comm, tokensUpTo, List.cons_append, hstop]
  simp only [hread rest hrest, readAll, hadvance]

lemma passes_mark (c : Char) {mark : Mark} (hmark : Mark.ofChar? c = some mark)
    (hadvance : ∀ left, before.advance room left (.mark mark) = .ok after) :
    Passes room before [c] after fun _ => True := by
  have hblank : Json.isBlank c = false := by
    by_contra h
    simp only [Json.isBlank, decide_eq_true_eq, Bool.not_eq_false] at h
    rcases h with rfl | rfl | rfl | rfl <;> cases hmark
  refine passes_token ⟨c, [], rfl, hblank, fun rest _ => ?_⟩ hadvance
  rw [readToken, hmark]
  rfl

lemma passes_append (h : Passes room before text middle Next)
    (hlater : Passes room middle later after Last) (hnext : ∀ rest, Last rest → Next (later ++ rest)) :
    Passes room before (text ++ later) after Last := by
  obtain ⟨count, hcount, hread⟩ := h
  obtain ⟨other, hother, hreadLater⟩ := hlater
  refine ⟨count + other, ?_, fun more rest hrest => ?_⟩
  · rw [List.length_append]
    exact Nat.add_le_add hcount hother
  · rw [List.append_assoc, Nat.add_assoc, hread _ _ (hnext rest hrest), hreadLater _ _ hrest]

/-- Anything can come behind the first one of two texts. -/
lemma passes_both (h : Passes room before text middle fun _ => True)
    (hlater : Passes room middle later after Next) : Passes room before (text ++ later) after Next :=
  passes_append h hlater fun _ _ => trivial

lemma passes_of_any (h : Passes room before text after fun _ => True) :
    Passes room before text after Next := by
  obtain ⟨count, hcount, hread⟩ := h
  exact ⟨count, hcount, fun more rest _ => hread more rest trivial⟩

lemma indent_toList (level : ℕ) : (indent level).toList = '\n' :: List.replicate (2 * level) ' ' := by
  rw [indent, String.toList_append]
  exact congrArg ('\n' :: ·) String.toList_ofList

lemma passes_indent (level : ℕ) : Passes room before (indent level).toList before fun _ => True := by
  refine passes_blanks (indent_toList level ▸ List.forall_mem_cons.mpr ⟨rfl, fun c hc => ?_⟩)
  rw [List.eq_of_mem_replicate hc]
  rfl

lemma endsValue_indent (level : ℕ) (rest : List Char) : EndsValue ((indent level).toList ++ rest) :=
  ⟨'\n', _, by rw [indent_toList, List.cons_append], .inr rfl⟩

/-! ### Containers -/

section Blocks

-- what is awaited behind some of the parts, and what has been read once they are complete
variable {α : Type} {parts : List α} {print : α → String} (Awaits : Progress → List α → Prop)
  (complete : List α → Progress)

/-- The parts of a container are read one after the other. -/
lemma passes_row
    (hpart : ∀ done part later, parts = done ++ part :: later → ∀ before, Awaits before done →
      Passes room before (print part).toList (complete (done ++ [part])) EndsValue)
    (hcomma : ∀ done, ∃ next, Awaits next done ∧ Passes room (complete done) [','] next fun _ => True)
    (level : ℕ) {done later : List α} {part : α} (hsplit : parts = done ++ part :: later)
    (hbefore : Awaits before done) :
    Passes room before (("," ++ indent level).intercalate ((part :: later).map print)).toList
      (complete parts) EndsValue := by
  induction later generalizing done part before with
  | nil =>
    rw [List.map_singleton, String.intercalate_singleton, hsplit]
    exact hpart done part [] hsplit before hbefore
  | cons second later ih =>
    have hread := hpart done part (second :: later) hsplit before hbefore
    obtain ⟨next, hnext, hseparator⟩ := hcomma (done ++ [part])
    have hrest := ih (hsplit.trans (List.append_cons done part (second :: later))) hnext
    rw [List.map_cons, List.map_cons, String.intercalate_cons_cons, String.toList_append,
      String.toList_append, String.toList_append, List.append_assoc, List.append_assoc]
    refine passes_append hread (passes_both hseparator (passes_both (passes_indent level) hrest)) ?_
    exact fun rest _ => ⟨',', _, rfl, .inl rfl⟩

/-- A container is read from its opening mark up to its closing one. -/
lemma passes_block
    (hpart : ∀ done part later, parts = done ++ part :: later → ∀ before, Awaits before done →
      Passes room before (print part).toList (complete (done ++ [part])) EndsValue)
    (hcomma : ∀ done, ∃ next, Awaits next done ∧ Passes room (complete done) [','] next fun _ => True)
    {opening closing : String} (hopening : Passes room before opening.toList first fun _ => True)
    (hfirst : Awaits first [])
    (hempty : parts = [] → Passes room first closing.toList after fun _ => True)
    (hclosing : Passes room (complete parts) closing.toList after fun _ => True) :
    Passes room before (printBlock level opening closing (parts.map print)).toList after
      fun _ => True := by
  rw [printBlock, List.isEmpty_map]
  cases parts with
  | nil =>
    rw [List.isEmpty_nil, if_pos rfl, String.toList_append]
    exact passes_both hopening (hempty rfl)
  | cons part later =>
    have hrow := passes_row Awaits complete hpart hcomma (level + 1) (List.nil_append _).symm hfirst
    rw [List.isEmpty_cons, if_neg Bool.false_ne_true]
    simp only [String.toList_append, List.append_assoc]
    refine passes_both hopening (passes_both (passes_indent (level + 1)) (passes_append hrow
      (passes_both (passes_indent level) hclosing) fun rest _ => ?_))
    rw [List.append_assoc]
    exact endsValue_indent level _

end Blocks

/-! ### Values -/

lemma printItems_eq (level : ℕ) (items : List Value) :
    Value.printItems level items = items.map (Value.print level) := by
  induction items with
  | nil => rfl
  | cons item later ih => rw [Value.printItems, ih, List.map_cons]

lemma printMembers_eq (level : ℕ) (members : List (Points × Value)) :
    Value.printMembers level members =
      members.map fun member => printText member.1 ++ ": " ++ member.2.print level := by
  induction members with
  | nil => rfl
  | cons member later ih => rw [Value.printMembers, ih, List.map_cons]

lemma put_of_not_mem {name : Points} (h : name ∉ members.map Prod.fst) :
    put name value members = members ++ [(name, value)] := by
  induction members with
  | nil => rfl
  | cons member later ih =>
    rw [List.map_cons, List.mem_cons, not_or] at h
    rw [put, if_neg (Ne.symm h.1), ih h.2]
    rfl

lemma advance_of_awaitsValue (h : AwaitsValue before outer) {left : ℕ}
    (hread : readValue room outer left token = .ok after) :
    before.advance room left token = .ok after := by
  cases h with
  | next => exact hread
  | first =>
    cases token with
    | mark mark =>
      -- only the end of the list could come otherwise, and it is no value
      cases mark with
      | closeList => cases hread
      | _ => exact hread
    | _ => exact hread

/-- A member is a name, a colon and a value. -/
lemma passes_member (hname : AwaitsName outer before members)
    (hvalue : Passes room (beforeValue (.object members (points name) :: outer)) text
      (give value (.object members (points name) :: outer)) EndsValue) :
    Passes room before ((printText (points name)).toList ++ (": ".toList ++ text))
      (afterMember (put (points name) value members) outer) EndsValue := by
  have hadvance : ∀ left, before.advance room left (.text (points name)) =
      .ok (beforeColon members (points name) outer) := by
    cases hname <;> exact fun _ => rfl
  have hblank : ∀ c ∈ [' '], Json.isBlank c = true := List.forall_mem_singleton.mpr rfl
  refine passes_both (passes_token (isWritten_text name) hadvance) ?_
  rw [show ": ".toList = [':'] ++ [' '] from rfl, List.append_assoc]
  exact passes_both (passes_mark ':' rfl fun _ => rfl) (passes_both (passes_blanks hblank) hvalue)

/-- A list is read if its items are, each of them inside of the list. -/
lemma passes_list (hbefore : AwaitsValue before outer) (hroom : outer.length < room)
    (h : ∀ item ∈ items, ∀ before done, AwaitsValue before (.list done :: outer) →
      Passes room before (item.print (level + 1)).toList (afterItem (item :: done) outer) EndsValue) :
    Passes room before ((Value.list items).print level).toList (give (.list items) outer)
      fun _ => True := by
  rw [Value.print, printItems_eq]
  refine passes_block (fun next done => AwaitsValue next (.list done.reverse :: outer))
    (fun done => afterItem done.reverse outer) ?_ ?_ (passes_mark '[' rfl fun left => ?_) .first
    (fun hempty => passes_mark ']' rfl fun left => ?_) (passes_mark ']' rfl fun left => ?_)
  · rintro done item later rfl before hnext
    rw [List.reverse_append, List.reverse_singleton]
    exact h item (List.mem_append_right _ List.mem_cons_self) before done.reverse hnext
  · exact fun done => ⟨_, .next, passes_mark ',' rfl fun _ => rfl⟩
  · exact advance_of_awaitsValue hbefore (if_pos hroom)
  · rw [hempty]
    rfl
  · rw [advance, List.reverse_reverse]

/-- An object is read if the values of its members are, each of them inside of the object. -/
lemma passes_object (hbefore : AwaitsValue before outer) (hroom : outer.length < room)
    (hnames : (members.map Prod.fst).Nodup)
    (htexts : ∀ member ∈ members, ∃ name : String, member.1 = points name)
    (h : ∀ member ∈ members, ∀ opened, Passes room (beforeValue (opened :: outer))
      (member.2.print (level + 1)).toList (give member.2 (opened :: outer)) EndsValue) :
    Passes room before ((Value.object members).print level).toList (give (.object members) outer)
      fun _ => True := by
  rw [Value.print, printMembers_eq]
  refine passes_block (AwaitsName outer) (fun done => afterMember done outer) ?_ ?_
    (passes_mark '\x7b' rfl fun left => ?_) .first
    (fun hempty => passes_mark '\x7d' rfl fun left => ?_) (passes_mark '\x7d' rfl fun left => rfl)
  · rintro done ⟨name, value⟩ later rfl before hnext
    have hmem : (name, value) ∈ done ++ (name, value) :: later :=
      List.mem_append_right _ List.mem_cons_self
    obtain ⟨written, rfl⟩ := htexts _ hmem
    have hnew : points written ∉ done.map Prod.fst := by
      rw [List.map_append, List.map_cons] at hnames
      exact fun hold => (List.nodup_append.mp hnames).2.2 _ hold _ List.mem_cons_self rfl
    have hmember := passes_member hnext (h _ hmem (.object done (points written)))
    rw [put_of_not_mem hnew] at hmember
    simp only [String.toList_append, List.append_assoc]
    exact hmember
  · exact fun done => ⟨_, .next, passes_mark ',' rfl fun _ => rfl⟩
  · exact advance_of_awaitsValue hbefore (if_pos hroom)
  · rw [hempty]
    rfl

/-- A value that is printed is read where a value can come, if there is room for its containers. -/
lemma passes_print (h : value.IsPlain depth) (hbefore : AwaitsValue before outer)
    (hroom : outer.length + depth ≤ room) :
    Passes room before (value.print level).toList (give value outer) EndsValue := by
  induction h generalizing level before outer with
  | null =>
    exact passes_of_any (passes_token isWritten_null fun _ => advance_of_awaitsValue hbefore rfl)
  | bool value =>
    have hprint : (Value.bool value).print level = if value then "true" else "false" := by
      cases value <;> rfl
    rw [hprint]
    exact passes_of_any (passes_token (isWritten_bool value) fun _ => advance_of_awaitsValue hbefore rfl)
  | integer hsize =>
    exact passes_token (isWritten_integer hsize) fun _ => advance_of_awaitsValue hbefore rfl
  | text written =>
    exact passes_of_any (passes_token (isWritten_text written) fun _ => advance_of_awaitsValue hbefore rfl)
  | list hitems ih =>
    refine passes_of_any (passes_list hbefore (by omega) fun item hitem before done hinside => ?_)
    refine ih item hitem hinside ?_
    rw [List.length_cons]
    omega
  | object hnames htexts hmembers ih =>
    refine passes_of_any (passes_object hbefore (by omega) hnames htexts fun member hmember opened => ?_)
    refine ih member hmember .next ?_
    rw [List.length_cons]
    omega

lemma readAll_byteOrderMark (room : ℕ) (rest : List Char) :
    ∀ value, (beforeValue []).readAll room (tokens ('\uFEFF' :: rest)) ≠ .ok value := by
  have htoken : readToken '\uFEFF' rest = (.other, rest) := rfl
  intro value h
  rw [tokens, List.length_cons, tokensUpTo, List.dropWhile_cons_of_neg (by decide)] at h
  simp only [htoken] at h
  cases h

lemma read_of_readAll {text : List Char} (h : (beforeValue []).readAll room (tokens text) = .ok value) :
    Json.read room text = .ok value := by
  rw [Json.read, h, if_neg]
  intro hmark
  obtain ⟨rest, rfl⟩ := List.head?_eq_some_iff.mp hmark
  exact readAll_byteOrderMark room rest value h

/-- A value that is printed, with the end of its last line behind it, is read as itself. -/
theorem read_print (h : value.IsPlain depth) (hroom : depth ≤ room) :
    Json.read room (value.print 0 ++ "\n").toList = .ok value := by
  have hfits : ([] : List Opened).length + depth ≤ room := by rwa [List.length_nil, Nat.zero_add]
  obtain ⟨count, hcount, hpass⟩ := @passes_print room 0 depth _ _ _ h .next hfits
  have hend : ∀ more, tokensUpTo more ['\n'] = [] := fun more => by cases more <;> rfl
  have hlength : ((value.print 0).toList ++ ['\n']).length =
      count + ((value.print 0).toList.length + 1 - count) := by
    rw [List.length_append, List.length_singleton]
    omega
  apply read_of_readAll
  rw [String.toList_append]
  change readAll room _ (tokensUpTo ((value.print 0).toList ++ ['\n']).length
    ((value.print 0).toList ++ ['\n'])) = _
  rw [hlength, hpass _ ['\n'] ⟨'\n', [], rfl, .inr rfl⟩, hend]
  rfl

end PixelPanel.Proofs
