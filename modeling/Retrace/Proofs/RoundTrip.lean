import Retrace.Config.Load
import Retrace.Session.Json
import Retrace.Proofs.Literals

/-!
# What is printed is read back

Policies, configurations, counters and reports are printed as compact objects. Reading what was
printed gives back the value, whatever the integers in it are, as long as they are indices.

The argument goes through the members of an object one by one, and knows nothing about what they
are: if every printed member, where the reader of members comes to it, takes the accumulator one
step further, then the whole object takes it all the way. For a record the steps are those of its
fields, in the order of their declaration.

## Main definitions

* `Reads` — a reader of members gets from one accumulator to another by way of printed members.
* `Record.Fills` — fields get from one value to another by way of printed members.
* `Retention.Indexed`, `Config.Indexed`, `Stats.Indexed`, `Verification.Indexed` — all integers are
  indices.

## Main statements

* `foldMembers_printed` — an object is read if its members are.
* `Record.read_printObject` — a record is read if its fields are.
* `printed_text_is_read_back` — for each of the four.
-/

namespace Retrace

namespace Json

variable {α : Type}

/-! ### Objects -/

/-- **A reader of members** gets from one accumulator to another by way of printed members. -/
inductive Reads (read : α → String → Reader α) : List (String × List Char) → α → α → Prop
  | nil {acc : α} : Reads read [] acc acc
  | cons {key : String} {printed : List Char} {members : List (String × List Char)}
      {acc next last : α} (plain : Plain key)
      (one : ∀ rest, EndsNumber rest → read acc key (':' :: (printed ++ rest)) = .ok (next, rest))
      (others : Reads read members next last) : Reads read ((key, printed) :: members) acc last

/-- Printed members that follow others. -/
def printFurther (members : List (String × List Char)) : List Char :=
  members.flatMap fun member => ',' :: printMember member

theorem intercalate_printMember (member : String × List Char)
    (members : List (String × List Char)) :
    [','].intercalate ((member :: members).map printMember) =
      printMember member ++ printFurther members := by
  induction members generalizing member with
  | nil => simp [printFurther]
  | cons next members ih =>
    rw [List.map_cons, List.map_cons, List.intercalate_cons_cons, ← List.map_cons, ih]
    simp [printFurther]

theorem endsNumber_printFurther (members : List (String × List Char)) (rest : List Char) :
    EndsNumber (printFurther members ++ '}' :: rest) := by
  cases members with
  | nil => exact endsNumber_of_cons (.inr rfl)
  | cons member members => exact endsNumber_of_cons (.inl rfl)

theorem length_le_printFurther (members : List (String × List Char)) :
    members.length ≤ (printFurther members).length := by
  induction members with
  | nil => exact Nat.le_refl 0
  | cons member members ih =>
    rw [printFurther, List.flatMap_cons, List.length_append, List.length_cons, List.length_cons]
    exact Nat.le_trans (Nat.succ_le_succ ih) (by rw [printFurther]; omega)

theorem printMember_append (key : String) (printed rest : List Char) :
    printMember (key, printed) ++ rest = printWord key ++ ':' :: (printed ++ rest) := by
  rw [printMember, List.append_assoc, List.cons_append]

theorem nextMember_printed {key : String} (plain : Plain key) (rest : List Char) :
    nextMember true (printWord key ++ rest) = .ok (.entry key rest) ∧
      nextMember false (',' :: (printWord key ++ rest)) = .ok (.entry key rest) := by
  have entry : nextMember.entry (printWord key ++ rest) = .ok (.entry key rest) := by
    rw [nextMember.entry, readKey_printWord plain]
    rfl
  rw [printWord_append] at entry ⊢
  exact ⟨entry, entry⟩

theorem foldMembersWithin_further {read : α → String → Reader α}
    {members : List (String × List Char)} {acc last : α} (reads : Reads read members acc last)
    (rest : List Char) {bound : Nat} (enough : members.length < bound) :
    foldMembersWithin read bound false acc (printFurther members ++ '}' :: rest) =
      .ok (last, rest) := by
  induction reads generalizing bound with
  | nil =>
    obtain ⟨bound, rfl⟩ := Nat.exists_eq_add_one.2 enough
    rfl
  | @cons key printed members acc next last plain one others ih =>
    obtain ⟨bound, rfl⟩ := Nat.exists_eq_add_one.2 (Nat.zero_lt_of_lt enough)
    have text : printFurther ((key, printed) :: members) ++ '}' :: rest =
        ',' :: (printWord key ++ ':' :: (printed ++ (printFurther members ++ '}' :: rest))) := by
      rw [← printMember_append]
      simp [printFurther]
    rw [text, foldMembersWithin, (nextMember_printed plain _).2]
    dsimp only [bind, Except.bind]
    rw [one _ (endsNumber_printFurther members rest)]
    exact ih (Nat.lt_of_succ_lt_succ enough)

/-- **An object is read if its members are.** -/
theorem foldMembers_printed {read : α → String → Reader α} {members : List (String × List Char)}
    {acc last : α} (reads : Reads read members acc last) (rest : List Char) :
    foldMembers read acc ([','].intercalate (members.map printMember) ++ '}' :: rest) =
      .ok (last, rest) := by
  cases reads with
  | nil => rfl
  | @cons key printed members acc next last plain one others =>
    have text : [','].intercalate (((key, printed) :: members).map printMember) ++ '}' :: rest =
        printWord key ++ ':' :: (printed ++ (printFurther members ++ '}' :: rest)) := by
      rw [intercalate_printMember, List.append_assoc, printMember_append]
    have enough : members.length <
        (printWord key ++ ':' :: (printed ++ (printFurther members ++ '}' :: rest))).length := by
      have further := length_le_printFurther members
      simp only [List.length_append, List.length_cons]
      omega
    rw [text, foldMembers, foldMembersWithin, (nextMember_printed plain _).1]
    dsimp only [bind, Except.bind]
    rw [one _ (endsNumber_printFurther members rest)]
    exact foldMembersWithin_further others rest enough

theorem readKind_printObject (members : List (String × List Char)) (rest : List Char) :
    readKind (printObject members ++ rest) =
      .ok (.object, [','].intercalate (members.map printMember) ++ '}' :: rest) := by
  rw [printObject, List.append_assoc]
  rfl

/-! ### Records -/

namespace Record

/-- **Fields get from one value to another** by way of printed members. -/
inductive Fills (depth : Nat) :
    List (RecordField α) → List (String × List Char) → α → α → Prop
  | nil {x : α} : Fills depth [] [] x x
  | cons {field : RecordField α} {fields : List (RecordField α)} {printed : List Char}
      {members : List (String × List Char)} {x next last : α} (plain : Plain field.name)
      (one : ∀ rest, EndsNumber rest → field.read depth x (printed ++ rest) = .ok (next, rest))
      (others : Fills depth fields members next last) :
      Fills depth (field :: fields) ((field.name, printed) :: members) x last

/-- A field is found by its name, if no two fields share it. -/
theorem find?_name {fields : List (RecordField α)} {field : RecordField α}
    (distinct : (fields.map RecordField.name).Nodup) (listed : field ∈ fields) :
    fields.find? (fun other => other.name == field.name) = some field := by
  induction fields with
  | nil => cases listed
  | cons head fields ih =>
    obtain ⟨fresh, distinct⟩ := List.nodup_cons.1 distinct
    rcases List.mem_cons.1 listed with rfl | listed
    · exact List.find?_cons_of_pos (beq_iff_eq.2 rfl)
    · have other : (head.name == field.name) = false :=
        beq_eq_false_iff_ne.2 fun same => fresh (same ▸ List.mem_map_of_mem listed)
      rw [List.find?_cons, other]
      exact ih distinct listed

theorem Fills.reads {r : Record α} {depth : Nat} {fields : List (RecordField α)}
    {members : List (String × List Char)} {x last : α} (fills : Fills depth fields members x last)
    (known : ∀ field ∈ fields, r.fields.find? (fun other => other.name == field.name) = some field)
    (distinct : (fields.map RecordField.name).Nodup) (seen : List String)
    (unseen : ∀ field ∈ fields, field.name ∉ seen) :
    Reads (r.readMember depth) members (x, seen)
      (last, (fields.map RecordField.name).reverse ++ seen) := by
  induction fills generalizing seen with
  | nil => exact .nil
  | @cons field fields printed members x next last plain one others ih =>
    obtain ⟨fresh, distinct⟩ := List.nodup_cons.1 distinct
    have first : ∀ rest, EndsNumber rest → r.readMember depth (x, seen) field.name
        (':' :: (printed ++ rest)) = .ok ((next, field.name :: seen), rest) := by
      intro rest ends
      have new : ¬ seen.contains field.name = true := by
        rw [List.contains_iff_mem]
        exact unseen field List.mem_cons_self
      unfold readMember
      rw [known field List.mem_cons_self]
      dsimp only
      rw [if_neg new]
      show (field.read depth x (printed ++ rest) >>= _) = _
      rw [one rest ends]
      rfl
    have unseen' : ∀ other ∈ fields, other.name ∉ field.name :: seen := by
      intro other listed
      rw [List.mem_cons, not_or]
      exact ⟨fun same => fresh (same ▸ List.mem_map_of_mem listed),
        unseen other (List.mem_cons_of_mem _ listed)⟩
    have later := ih (fun other listed => known other (List.mem_cons_of_mem _ listed)) distinct
      (field.name :: seen) unseen'
    refine .cons plain first ?_
    rw [List.map_cons, List.reverse_cons, List.append_assoc]
    exact later

/-- **A record is read if its fields are.** -/
theorem read_printObject {r : Record α} {depth : Nat} {members : List (String × List Char)}
    {x : α} (distinct : r.names.Nodup) (fills : Fills depth r.fields members r.blank x)
    (rest : List Char) : r.read (depth + 1) (printObject members ++ rest) = .ok (x, rest) := by
  have reads := fills.reads (r := r) (fun field listed => find?_name distinct listed) distinct
    [] fun field listed => List.not_mem_nil
  have full : r.missing? ((r.fields.map RecordField.name).reverse ++ []) = none := by
    unfold missing?
    split
    · rw [List.find?_eq_none]
      intro name listed
      rw [List.append_nil]
      simpa [names] using listed
    · rfl
  rw [read, readKind_printObject]
  show (r.readObject depth _) = _
  rw [readObject, foldMembers_printed reads]
  dsimp only [bind, Except.bind]
  rw [full]
  rfl

/-- **So is a whole document.** -/
theorem ofText_printObject {r : Record α} {members : List (String × List Char)} {x : α}
    (distinct : r.names.Nodup) (fills : Fills (nestingLimit - 1) r.fields members r.blank x) :
    r.ofText (String.ofList (printObject members)) = .ok x := by
  have read := read_printObject distinct fills []
  rw [List.append_nil] at read
  rw [ofText, String.toList_ofList]
  show (r.read (nestingLimit - 1 + 1) (printObject members) >>= _) = _
  rw [read]
  rfl

end Record

/-! ### Fields -/

theorem readNatural_printNatural {n : Nat} (within : n ≤ Index.maxIndex) {rest : List Char}
    (ends : EndsNumber rest) : readNatural (printNatural n ++ rest) = .ok (n, rest) := by
  rw [readNatural, readKind_printNatural within ends]
  rfl

theorem naturalField_read {name : String} {set : α → Nat → α} {n : Nat}
    (within : n ≤ Index.maxIndex) (depth : Nat) (x : α) (rest : List Char)
    (ends : EndsNumber rest) :
    (naturalField name set).read depth x (printNatural n ++ rest) = .ok (set x n, rest) := by
  show (readNatural (printNatural n ++ rest) >>= _) = _
  rw [readNatural_printNatural within ends]
  rfl

theorem booleanField_read {name : String} {set : α → Bool → α} (b : Bool) (depth : Nat) (x : α)
    (rest : List Char) :
    (booleanField name set).read depth x (printBoolean b ++ rest) = .ok (set x b, rest) := by
  show (readBoolean (printBoolean b ++ rest) >>= _) = _
  rw [readBoolean, readKind_printBoolean]
  rfl

theorem readOptional_printOptional {limit : Option Nat}
    (within : ∀ n, limit = some n → n ≤ Index.maxIndex) {rest : List Char}
    (ends : EndsNumber rest) :
    readOptional readNatural (printOptional printNatural limit ++ rest) = .ok (limit, rest) := by
  cases limit with
  | none => rfl
  | some n =>
    rw [readOptional, printOptional, skipBlanks_printNatural]
    split
    · next rest' null =>
      obtain ⟨c, digits, number⟩ := List.exists_cons_of_ne_nil (printNatural_ne_nil n)
      have digit : isDigit c = true := isDigit_of_mem_printNatural (number ▸ List.mem_cons_self)
      rw [number] at null
      exact absurd (List.cons.inj null).1 (not_isDigit_eq digit rfl)
    · rw [readNatural_printNatural (within n rfl) ends]
      rfl

end Json

open Json

/-! ### Policies -/

namespace Retention

/-- **The integers in a policy are indices.** -/
def Indexed : Retention → Prop
  | unbounded => True
  | checkpoints interval => interval ≤ Index.maxIndex

/-- The name of a policy, read at its member. -/
theorem readMember_policy {name : String} {policy : Policy} (plain : Plain name)
    (known : policyOfName name = .ok policy) (depth : Nat) (members : List (String × Value))
    (rest : List Char) :
    readMember depth (none, members) "policy" (':' :: (printWord name ++ rest)) =
      .ok ((some policy, members), rest) := by
  show (readPolicy (printWord name ++ rest) >>= _) = _
  rw [readPolicy, readKind_printWord plain]
  dsimp only [bind, Except.bind]
  rw [known]
  rfl

/-- The interval is taken in as a value. -/
theorem readMember_interval {interval : Nat} (within : interval ≤ Index.maxIndex) (depth : Nat)
    (policy : Option Policy) (members : List (String × Value)) {rest : List Char}
    (ends : EndsNumber rest) :
    readMember depth (policy, members) "interval" (':' :: (printNatural interval ++ rest)) =
      .ok ((policy, members ++ [("interval", .number (.natural interval))]), rest) := by
  show (addMember (readValue depth) members "interval" (':' :: (printNatural interval ++ rest)) >>=
    _) = _
  have value := readValue_of_number depth (readKind_printNatural within ends)
  unfold addMember
  show ((readValue depth (printNatural interval ++ rest) >>= _) >>= _) = _
  rw [value]
  rfl

theorem read_printObject {depth : Nat} {members : List (String × List Char)} {policy : Policy}
    {others : List (String × Value)} {r : Retention}
    (reads : Reads (readMember depth) members (none, []) (some policy, others))
    (meant : ofMembers policy others = .ok r) (rest : List Char) :
    read (depth + 1) (printObject members ++ rest) = .ok (r, rest) := by
  rw [read, readKind_printObject]
  show readObject depth _ = _
  rw [readObject, foldMembers_printed reads]
  dsimp only [bind, Except.bind]
  rw [meant]
  rfl

/-- **A printed policy is read back,** whatever follows it. -/
theorem read_print {r : Retention} (indexed : r.Indexed) (depth : Nat) (rest : List Char) :
    read (depth + 1) (r.print ++ rest) = .ok (r, rest) := by
  have policy : Plain "policy" := rfl
  have everything : Plain "unbounded" := rfl
  have apart : Plain "checkpoints" := rfl
  have parameter : Plain "interval" := rfl
  cases r with
  | unbounded =>
    exact read_printObject
      (.cons policy (fun rest _ => readMember_policy everything rfl depth [] rest) .nil) rfl rest
  | checkpoints interval =>
    exact read_printObject
      (.cons policy (fun rest _ => readMember_policy apart rfl depth [] rest)
        (.cons parameter (fun rest ends => readMember_interval indexed depth _ [] ends) .nil))
      rfl rest

theorem ofText_toJson {r : Retention} (indexed : r.Indexed) : ofText r.toJson = .ok r := by
  have read := read_print indexed (nestingLimit - 1) []
  rw [List.append_nil] at read
  rw [ofText, toJson, String.toList_ofList]
  show (Retention.read (nestingLimit - 1 + 1) r.print >>= _) = _
  rw [read]
  rfl

end Retention

/-! ### Configurations -/

namespace Config

/-- **The integers in a configuration are indices.** -/
structure Indexed (c : Config) : Prop where
  retention : c.retention.Indexed
  resumeLimit : ∀ n, c.resumeLimit = some n → n ≤ Index.maxIndex

theorem retentionField_read {r : Retention} (indexed : r.Indexed) (depth : Nat) (c : Config)
    (rest : List Char) :
    retentionField.read (depth + 1) c (r.print ++ rest) =
      .ok ({ c with retention := r }, rest) := by
  show (Retention.read (depth + 1) (r.print ++ rest) >>= _) = _
  rw [Retention.read_print indexed]
  rfl

theorem resumeLimitField_read {limit : Option Nat}
    (within : ∀ n, limit = some n → n ≤ Index.maxIndex) (depth : Nat) (c : Config)
    (rest : List Char) (ends : EndsNumber rest) :
    resumeLimitField.read depth c (printOptional printNatural limit ++ rest) =
      .ok ({ c with resumeLimit := limit }, rest) := by
  show (readOptional readNatural (printOptional printNatural limit ++ rest) >>= _) = _
  rw [readOptional_printOptional within ends]
  rfl

theorem ofText_toJson {c : Config} (indexed : c.Indexed) : ofText c.toJson = .ok c :=
  Record.ofText_printObject (by decide)
    (.cons rfl (fun rest _ => retentionField_read indexed.retention _ _ rest)
      (.cons rfl (resumeLimitField_read indexed.resumeLimit _ _) .nil))

end Config

/-! ### Counters and reports -/

/-- **The counters are indices.** -/
structure Stats.Indexed (s : Stats) : Prop where
  navigations : s.navigations ≤ Index.maxIndex
  cacheHits : s.cacheHits ≤ Index.maxIndex
  replayedSteps : s.replayedSteps ≤ Index.maxIndex
  verifiedSteps : s.verifiedSteps ≤ Index.maxIndex
  lastReplay : s.lastReplay ≤ Index.maxIndex

theorem Stats.ofText_toJson {s : Stats} (indexed : s.Indexed) : Stats.ofText s.toJson = .ok s :=
  Record.ofText_printObject (by decide)
    (.cons rfl (naturalField_read indexed.navigations _ _)
      (.cons rfl (naturalField_read indexed.cacheHits _ _)
        (.cons rfl (naturalField_read indexed.replayedSteps _ _)
          (.cons rfl (naturalField_read indexed.verifiedSteps _ _)
            (.cons rfl (naturalField_read indexed.lastReplay _ _) .nil)))))

/-- **The integers in a report are indices.** -/
structure Verification.Indexed (v : Verification) : Prop where
  checked : v.checked ≤ Index.maxIndex
  reached : v.reached ≤ Index.maxIndex

theorem Verification.ofText_toJson {v : Verification} (indexed : v.Indexed) :
    Verification.ofText v.toJson = .ok v :=
  Record.ofText_printObject (by decide)
    (.cons rfl (naturalField_read indexed.checked _ _)
      (.cons rfl (naturalField_read indexed.reached _ _)
        (.cons rfl (fun rest _ => booleanField_read v.terminated _ _ rest) .nil)))

/-! ### All four -/

/-- **What is printed is read back.** For policies, configurations, counters and reports, whatever
integers, flags and missing limits they hold, the printed text is read as exactly what was printed.
A configuration that is loaded from its printed text is checked as the configuration itself is:
there is the same configuration, or there are the same violations in the same order. -/
theorem printed_text_is_read_back :
    (∀ r : Retention, r.Indexed → Retention.ofText r.toJson = .ok r) ∧
    (∀ c : Config, c.Indexed → Config.ofText c.toJson = .ok c ∧
      Config.ofJson c.toJson = c.validated.mapError .invalid) ∧
    (∀ s : Stats, s.Indexed → Stats.ofText s.toJson = .ok s) ∧
    ∀ v : Verification, v.Indexed → Verification.ofText v.toJson = .ok v := by
  refine ⟨fun r => Retention.ofText_toJson, ?_, fun s => Stats.ofText_toJson,
    fun v => Verification.ofText_toJson⟩
  intro c indexed
  have read := Config.ofText_toJson indexed
  refine ⟨read, ?_⟩
  rw [Config.ofJson, read]

/-- The largest integers are read back as well as zero, and a configuration that breaks both rules
is refused for both when it is loaded. -/
theorem printed_text_is_read_back_at_the_bounds :
    let largest : Config :=
      { retention := .checkpoints Index.maxIndex, resumeLimit := some Index.maxIndex }
    let broken : Config := { retention := .checkpoints 0, resumeLimit := some 0 }
    let counters : Stats :=
      { navigations := 10, cacheHits := 0, replayedSteps := Index.maxIndex,
        verifiedSteps := 909, lastReplay := 1 }
    let report : Verification := { checked := 0, reached := Index.maxIndex, terminated := true }
    Retention.ofText (Retention.toJson .unbounded) = .ok .unbounded ∧
      Config.ofJson largest.toJson = .ok largest ∧
      Config.ofText broken.toJson = .ok broken ∧
      Config.ofJson broken.toJson =
        .error (.invalid [.zeroCheckpointInterval, .zeroResumeLimit]) ∧
      Stats.ofText counters.toJson = .ok counters ∧
      Verification.ofText report.toJson = .ok report := by
  intro largest broken counters report
  obtain ⟨policies, configurations, stats, verifications⟩ := printed_text_is_read_back
  have most : largest.Indexed :=
    ⟨Nat.le_refl Index.maxIndex, fun n some => Option.some.inj some ▸ Nat.le_refl Index.maxIndex⟩
  have least : broken.Indexed :=
    ⟨Nat.zero_le Index.maxIndex, fun n some => Option.some.inj some ▸ Nat.zero_le Index.maxIndex⟩
  obtain ⟨brokenText, brokenJson⟩ := configurations broken least
  refine ⟨policies _ trivial, (configurations largest most).2, brokenText, brokenJson, ?_, ?_⟩
  · exact stats counters ⟨by decide, by decide, by decide, by decide, by decide⟩
  · exact verifications report ⟨by decide, by decide⟩

end Retrace
