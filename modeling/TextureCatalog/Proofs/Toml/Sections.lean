import TextureCatalog.Proofs.Text.Pieces
import TextureCatalog.Proofs.Toml.Values

/-!
# Written sections are read again

A text of sections is read line by line, where the reader keeps the sections that it has seen.  A
header begins a new one, and an entry adds to the last one.
-/

namespace TextureCatalog.Toml

/-! ## Keys -/

/-- Keys that are written without quotation marks. -/
def IsBare (key : String) : Prop :=
  key.toList ≠ [] ∧ ∀ c ∈ key.toList, isBareKeyChar c = true

instance (key : String) : Decidable (IsBare key) :=
  decidable_of_iff (key.toList ≠ [] ∧ key.toList.all isBareKeyChar = true) (by
    rw [IsBare, List.all_eq_true])

theorem isBareKeyChar_ne {c other : Char} (h : isBareKeyChar c = true)
    (hother : isBareKeyChar other = false) : c ≠ other := by
  rintro rfl
  rw [hother] at h
  exact absurd h (by decide)

theorem IsBare.exists_eq_cons {key : String} (h : IsBare key) :
    ∃ first others, key.toList = first :: others ∧ isBareKeyChar first = true := by
  obtain ⟨first, others, hkey⟩ := List.exists_cons_of_ne_nil h.1
  exact ⟨first, others, hkey, h.2 first (by simp [hkey])⟩

theorem skipBlanks_cons {c : Char} (h : isBlank c = false) (rest : List Char) :
    skipBlanks (c :: rest) = c :: rest := by
  simp [skipBlanks, h]

theorem readKeyPart_bare {key : String} (h : IsBare key) {c : Char}
    (hc : isBareKeyChar c = false) (rest : List Char) :
    readKeyPart (key.toList ++ c :: rest) = .ok (key, c :: rest) := by
  have htake : (key.toList ++ c :: rest).takeWhile isBareKeyChar = key.toList := by
    rw [List.takeWhile_append_of_pos h.2, List.takeWhile_cons_of_neg (by simp [hc]),
      List.append_nil]
  have hdrop : (key.toList ++ c :: rest).dropWhile isBareKeyChar = c :: rest := by
    rw [List.dropWhile_append_of_pos h.2, List.dropWhile_cons_of_neg (by simp [hc])]
  obtain ⟨first, others, hkey, hfirst⟩ := h.exists_eq_cons
  rw [hkey, List.cons_append] at htake hdrop ⊢
  rw [readKeyPart]
  · rw [if_pos hfirst, htake, hdrop, ← hkey, String.ofList_toList]
  · exact isBareKeyChar_ne hfirst (by decide)
  · exact isBareKeyChar_ne hfirst (by decide)

/-- A bare key is read up to what follows it after blanks, unless that is a point. -/
theorem readKey_bare {key : String} (h : IsBare key) {c next : Char} {rest after : List Char}
    (hc : isBareKeyChar c = false) (hafter : skipBlanks (c :: rest) = next :: after)
    (hnext : next ≠ '.') : readKey (key.toList ++ c :: rest) = .ok ([key], next :: after) := by
  rw [readKey, readKeyWith, readKeyPart_bare h hc]
  simp only [hafter]
  split
  · next heq => exact absurd (List.cons.inj heq).1 hnext
  · rfl

/-! ## Members -/

section Members

variable {members : Document.Members} {key : String}

theorem has_eq_true_iff : members.has key = true ↔ key ∈ members.map Prod.fst := by
  simp [Document.Members.has]

theorem get?_of_not_mem (h : key ∉ members.map Prod.fst) : members.get? key = none := by
  rw [← Option.not_isSome_iff_eq_none, Document.Members.isSome_get?, has_eq_true_iff]
  exact h

theorem putMember_of_not_mem (h : key ∉ members.map Prod.fst) (value : Document) :
    putMember members key value = members ++ [(key, value)] := by
  rw [putMember, if_neg (by rwa [has_eq_true_iff])]

theorem addMember_of_not_mem (h : key ∉ members.map Prod.fst) (value : Document) :
    addMember key value members = some (members ++ [(key, value)]) := by
  rw [addMember, if_neg (by rwa [has_eq_true_iff])]

/-- A member that is there is changed in its place. -/
theorem putMember_append_singleton (h : key ∉ members.map Prod.fst) (old value : Document) :
    putMember (members ++ [(key, old)]) key value = members ++ [(key, value)] := by
  have hothers : members.map (fun member => if member.1 == key then (key, value) else member) =
      members := by
    rw [List.map_congr_left (g := id), List.map_id]
    intro member hmember
    have hne : member.1 ≠ key := fun hsame => h (hsame ▸ List.mem_map_of_mem hmember)
    simp [hne]
  rw [putMember, if_pos (by rw [has_eq_true_iff]; simp), List.map_append, hothers]
  simp

end Members

/-! ## Sections -/

/-- The members of a section as they stand in a document. -/
def entryMembers (entries : List (String × Scalar)) : Document.Members :=
  entries.map fun entry => (entry.1, entry.2.toDocument)

/-- The member of a document that a section becomes. -/
def Section.toMember (table : Section) : String × Document :=
  (table.name, .table (entryMembers table.entries))

/-- Sections whose written form is read again: their keys need no quotation marks and are distinct,
and their values are readable. -/
structure Section.IsReadable (table : Section) : Prop where
  name : IsBare table.name
  keys : ∀ entry ∈ table.entries, IsBare entry.1
  values : ∀ entry ∈ table.entries, entry.2.IsReadable
  nodup : (table.entries.map Prod.fst).Nodup

/-- What the reader keeps after some sections. -/
def State.after (tables : List Section) : State :=
  { root := tables.map Section.toMember
    declared := (tables.map fun table => [table.name]).reverse
    header := (tables.getLast?.map fun table => [table.name]).getD [] }

theorem map_fst_toMember (tables : List Section) :
    (tables.map Section.toMember).map Prod.fst = tables.map Section.name := by
  rw [List.map_map]
  rfl

theorem map_fst_entryMembers (entries : List (String × Scalar)) :
    (entryMembers entries).map Prod.fst = entries.map Prod.fst := by
  rw [entryMembers, List.map_map]
  rfl

/-- A header declares a section without entries. -/
theorem declareTable_after {tables : List Section} {name : String}
    (h : name ∉ tables.map Section.name) (remaining : Nat) :
    (State.after tables).settle.declareTable [name] remaining =
      .ok (State.after (tables ++ [⟨name, []⟩])) := by
  have hdeclared : ((tables.map fun table => [table.name]).reverse).contains [name] = false := by
    simpa using h
  have hroot : changeTable true some [name] (tables.map Section.toMember) =
      some ((tables ++ [Section.mk name []]).map Section.toMember) := by
    rw [← map_fst_toMember] at h
    rw [changeTable, get?_of_not_mem h]
    simp only [changeTable, Option.map_some, putMember_of_not_mem h]
    simp [Section.toMember, entryMembers]
  simp only [State.settle, State.declareTable, State.after, List.nil_append, hdeclared, isFrozen,
    List.any_nil, Bool.or_false, Bool.false_eq_true, if_false, hroot]
  simp

/-- An entry is added to the last section. -/
theorem assign_after {tables : List Section} {name : String}
    (h : name ∉ tables.map Section.name) {entries : List (String × Scalar)} {key : String}
    (hkey : key ∉ entries.map Prod.fst) (value : Scalar) (remaining : Nat) :
    (State.after (tables ++ [⟨name, entries⟩])).assign [key] value.toDocument remaining =
      .ok (State.after (tables ++ [⟨name, entries ++ [(key, value)]⟩])) := by
  have hsimple : isContainer value.toDocument = false := by
    cases value <;> rfl
  have hroot : changeTable true (addMember key value.toDocument) [name]
      (tables.map Section.toMember ++ [Section.toMember ⟨name, entries⟩]) =
      some (tables.map Section.toMember ++
        [Section.toMember ⟨name, entries ++ [(key, value)]⟩]) := by
    rw [← map_fst_toMember] at h
    rw [← map_fst_entryMembers] at hkey
    rw [Section.toMember, changeTable, Document.Members.get?_append_singleton, if_pos rfl]
    simp only [changeTable, addMember_of_not_mem hkey, Option.map_some,
      putMember_append_singleton h]
    simp [Section.toMember, entryMembers]
  have hheader : (State.after (tables ++ [⟨name, entries⟩])).header = [name] := by
    simp [State.after]
  simp only [State.assign, hheader, beginnings]
  simp [State.after, isFrozen, hroot, hsimple]

/-! ## Lines -/

/-- A statement that fills its line is followed by the next line. -/
theorem readStatements_line {state next : State} {first : Char} {others rest : List Char}
    (hblank : isBlank first = false) (hend : first ≠ '\n')
    (h : readStatement state (first :: others) = .ok (next, '\n' :: rest)) (fuel : Nat) :
    readStatements (fuel + 1) state (first :: others) = readStatements fuel next rest := by
  rw [readStatements, skipBlanks_cons hblank]
  split
  · next heq => exact absurd heq (List.cons_ne_nil _ _)
  · next heq => exact absurd (List.cons.inj heq).1 hend
  · rw [h]
    rfl

theorem readStatements_emptyLine (fuel : Nat) (state : State) (rest : List Char) :
    readStatements (fuel + 1) state ('\n' :: rest) = readStatements fuel state rest := by
  rfl

theorem isBlank_eq_false_of_isBareKeyChar {c : Char} (h : isBareKeyChar c = true) :
    isBlank c = false := by
  have hspace : c ≠ ' ' := isBareKeyChar_ne h (by decide)
  have htab : c ≠ '\t' := isBareKeyChar_ne h (by decide)
  simp [isBlank, hspace, htab]

theorem readStatement_header {tables : List Section} {name : String} (hbare : IsBare name)
    (hnew : name ∉ tables.map Section.name) (rest : List Char) :
    readStatement (State.after tables) ('[' :: (name.toList ++ ']' :: '\n' :: rest)) =
      .ok (State.after (tables ++ [⟨name, []⟩]), '\n' :: rest) := by
  have hkey : readKey (name.toList ++ ']' :: '\n' :: rest) = .ok ([name], ']' :: '\n' :: rest) :=
    readKey_bare hbare (by decide) (skipBlanks_cons (by decide) _) (by decide)
  have hdeclare := declareTable_after hnew (']' :: '\n' :: rest).length
  obtain ⟨first, others, hfirst, hchar⟩ := hbare.exists_eq_cons
  have hblanks := skipBlanks_cons (isBlank_eq_false_of_isBareKeyChar hchar)
    (others ++ ']' :: '\n' :: rest)
  have hbracket : first ≠ '[' := isBareKeyChar_ne hchar (by decide)
  rw [hfirst, List.cons_append] at hkey ⊢
  simp only [readStatement, readHeader]
  split
  · next heq => exact absurd (List.cons.inj heq).1 hbracket
  · rw [hblanks, hkey]
    simp only [bind, Except.bind, hdeclare]
    rfl

theorem readStatement_entry {tables : List Section} {name : String}
    (hname : name ∉ tables.map Section.name) {entries : List (String × Scalar)}
    {entry : String × Scalar} (hbare : IsBare entry.1) (hvalue : entry.2.IsReadable)
    (hnew : entry.1 ∉ entries.map Prod.fst) (rest : List Char) :
    readStatement (State.after (tables ++ [⟨name, entries⟩])) (writeEntry entry ++ rest) =
      .ok (State.after (tables ++ [⟨name, entries ++ [entry]⟩]), '\n' :: rest) := by
  have hline : writeEntry entry ++ rest =
      entry.1.toList ++ ' ' :: '=' :: ' ' :: (entry.2.write ++ '\n' :: rest) := by
    simp [writeEntry]
  have hkey : readKey (entry.1.toList ++ ' ' :: '=' :: ' ' :: (entry.2.write ++ '\n' :: rest)) =
      .ok ([entry.1], '=' :: ' ' :: (entry.2.write ++ '\n' :: rest)) :=
    readKey_bare hbare (by decide) rfl (by decide)
  have hblanks : skipBlanks (' ' :: (entry.2.write ++ '\n' :: rest)) =
      entry.2.write ++ '\n' :: rest := by
    obtain ⟨first, others, hwrite, -, -, hblank⟩ := exists_write_eq_cons entry.2
    rw [hwrite, List.cons_append]
    exact skipBlanks_cons hblank _
  have hread := readValue_write hvalue
    (2 * (' ' :: (entry.2.write ++ '\n' :: rest)).length + 1) rest
  have hassign := assign_after hname hnew entry.2 ('\n' :: rest).length
  obtain ⟨first, others, hfirst, hchar⟩ := hbare.exists_eq_cons
  have hbracket : first ≠ '[' := isBareKeyChar_ne hchar (by decide)
  have hcomment : first ≠ '#' := isBareKeyChar_ne hchar (by decide)
  rw [hline]
  rw [hfirst, List.cons_append] at hkey ⊢
  rw [readStatement]
  · rw [if_pos (Or.inl hchar), readAssignment, hkey]
    simp only [bind, Except.bind, hblanks, hread, hassign]
    rfl
  · exact hbracket
  · exact hcomment

theorem readStatements_header {tables : List Section} {name : String} (hbare : IsBare name)
    (hnew : name ∉ tables.map Section.name) (fuel : Nat) (rest : List Char) :
    readStatements (fuel + 1) (State.after tables) ('[' :: (name.toList ++ ']' :: '\n' :: rest)) =
      readStatements fuel (State.after (tables ++ [⟨name, []⟩])) rest :=
  readStatements_line (by decide) (by decide) (readStatement_header hbare hnew rest) fuel

theorem readStatements_entry {tables : List Section} {name : String}
    (hname : name ∉ tables.map Section.name) {entries : List (String × Scalar)}
    {entry : String × Scalar} (hbare : IsBare entry.1) (hvalue : entry.2.IsReadable)
    (hnew : entry.1 ∉ entries.map Prod.fst) (fuel : Nat) (rest : List Char) :
    readStatements (fuel + 1) (State.after (tables ++ [⟨name, entries⟩]))
        (writeEntry entry ++ rest) =
      readStatements fuel (State.after (tables ++ [⟨name, entries ++ [entry]⟩])) rest := by
  have hstatement := readStatement_entry hname hbare hvalue hnew rest
  obtain ⟨first, others, hfirst, hchar⟩ := hbare.exists_eq_cons
  have hend : first ≠ '\n' := isBareKeyChar_ne hchar (by decide)
  have hline : writeEntry entry ++ rest =
      first :: (others ++ " = ".toList ++ entry.2.write ++ ['\n'] ++ rest) := by
    rw [writeEntry, hfirst]
    rfl
  rw [hline] at hstatement ⊢
  exact readStatements_line (isBlank_eq_false_of_isBareKeyChar hchar) hend hstatement fuel

/-! ## Texts -/

theorem length_writeEntry_pos (entry : String × Scalar) : 0 < (writeEntry entry).length := by
  simp only [writeEntry, List.length_append, List.length_singleton]
  omega

/-- The entries of a section are read line by line.  Each line takes some of the text, so the fuel
that is left is enough for the rest. -/
theorem readStatements_entries {tables : List Section} {name : String}
    (hname : name ∉ tables.map Section.name) {entries : List (String × Scalar)}
    (hkeys : ∀ entry ∈ entries, IsBare entry.1)
    (hvalues : ∀ entry ∈ entries, entry.2.IsReadable) (seen : List (String × Scalar))
    (hnodup : ((seen ++ entries).map Prod.fst).Nodup) (rest : List Char) {fuel : Nat}
    (hfuel : (entries.flatMap writeEntry ++ rest).length < fuel) :
    ∃ left, rest.length < left ∧
      readStatements fuel (State.after (tables ++ [⟨name, seen⟩]))
          (entries.flatMap writeEntry ++ rest) =
        readStatements left (State.after (tables ++ [⟨name, seen ++ entries⟩])) rest := by
  induction entries generalizing seen fuel with
  | nil => exact ⟨fuel, hfuel, by rw [List.append_nil]; rfl⟩
  | cons entry entries ih =>
      have hnew : entry.1 ∉ seen.map Prod.fst := by
        rw [List.map_append] at hnodup
        exact fun hmem => (List.nodup_append.1 hnodup).2.2 _ hmem _ List.mem_cons_self rfl
      have hsplit : seen ++ entry :: entries = seen ++ [entry] ++ entries := by simp
      rw [hsplit] at hnodup ⊢
      rw [List.flatMap_cons, List.append_assoc] at hfuel ⊢
      have hlength := length_writeEntry_pos entry
      rw [List.length_append] at hfuel
      cases fuel with
      | zero => exact absurd hfuel (Nat.not_lt_zero _)
      | succ fuel =>
          rw [readStatements_entry hname (hkeys entry List.mem_cons_self)
            (hvalues entry List.mem_cons_self) hnew]
          exact ih (fun other hother => hkeys other (List.mem_cons_of_mem _ hother))
            (fun other hother => hvalues other (List.mem_cons_of_mem _ hother)) _ hnodup (by omega)

theorem readStatements_section {tables : List Section} {table : Section}
    (hnew : table.name ∉ tables.map Section.name) (h : table.IsReadable) (rest : List Char)
    {fuel : Nat} (hfuel : (table.write ++ rest).length < fuel) :
    ∃ left, rest.length < left ∧
      readStatements fuel (State.after tables) (table.write ++ rest) =
        readStatements left (State.after (tables ++ [table])) rest := by
  have hwrite : table.write ++ rest =
      '[' :: (table.name.toList ++ ']' :: '\n' :: (table.entries.flatMap writeEntry ++ rest)) := by
    simp [Section.write]
  rw [hwrite] at hfuel ⊢
  cases fuel with
  | zero => exact absurd hfuel (Nat.not_lt_zero _)
  | succ fuel =>
      rw [readStatements_header h.name hnew]
      apply readStatements_entries hnew h.keys h.values [] h.nodup
      simp only [List.length_cons, List.length_append] at hfuel ⊢
      omega

theorem readStatements_sections {tables : List Section} (seen : List Section)
    (h : ∀ table ∈ tables, table.IsReadable)
    (hnodup : ((seen ++ tables).map Section.name).Nodup) {fuel : Nat}
    (hfuel : (write tables).length < fuel) :
    readStatements fuel (State.after seen) (write tables) = .ok (State.after (seen ++ tables)) := by
  induction tables generalizing seen fuel with
  | nil =>
      rw [List.append_nil]
      cases fuel <;> rfl
  | cons table tables ih =>
      have hnew : table.name ∉ seen.map Section.name := by
        rw [List.map_append] at hnodup
        exact fun hmem => (List.nodup_append.1 hnodup).2.2 _ hmem _ List.mem_cons_self rfl
      have hsplit : seen ++ table :: tables = seen ++ [table] ++ tables := by simp
      have hreadable := h table List.mem_cons_self
      rw [hsplit] at hnodup ⊢
      cases tables with
      | nil =>
          have hwrite : write [table] = table.write ++ [] := by simp [write, Text.joinWith]
          rw [hwrite] at hfuel ⊢
          obtain ⟨left, hleft, hsection⟩ := readStatements_section hnew hreadable [] hfuel
          rw [hsection, List.append_nil]
          cases left <;> rfl
      | cons next others =>
          have hwrite : write (table :: next :: others) =
              table.write ++ '\n' :: write (next :: others) := by simp [write, Text.joinWith]
          rw [hwrite] at hfuel ⊢
          obtain ⟨left, hleft, hsection⟩ := readStatements_section hnew hreadable _ hfuel
          rw [hsection]
          cases left with
          | zero => exact absurd hleft (Nat.not_lt_zero _)
          | succ left =>
              rw [readStatements_emptyLine]
              exact ih _ (fun other hother => h other (List.mem_cons_of_mem _ hother)) hnodup
                (Nat.lt_of_succ_lt_succ hleft)

/-- A text of sections is read as the document of their members. -/
theorem read_write {tables : List Section} (h : ∀ table ∈ tables, table.IsReadable)
    (hnodup : (tables.map Section.name).Nodup) :
    read (write tables) = .ok (tables.map Section.toMember) := by
  have hstatements := readStatements_sections [] h hnodup (Nat.lt_succ_self _)
  rw [read]
  exact congrArg (Except.map State.root) hstatements

/-! ## Carriage returns -/

theorem IsBare.return_not_mem {key : String} (h : IsBare key) : '\r' ∉ key.toList :=
  fun hmem => absurd (h.2 _ hmem) (by decide)

theorem return_not_mem_writeEntry {entry : String × Scalar} (h : IsBare entry.1) :
    '\r' ∉ writeEntry entry := by
  simp [writeEntry, h.return_not_mem, return_not_mem_write]

theorem Section.IsReadable.return_not_mem {table : Section} (h : table.IsReadable) :
    '\r' ∉ table.write := by
  have hentries : '\r' ∉ table.entries.flatMap writeEntry := by
    intro hmem
    obtain ⟨entry, hentry, hreturn⟩ := List.mem_flatMap.1 hmem
    exact return_not_mem_writeEntry (h.keys entry hentry) hreturn
  simp [Section.write, h.name.return_not_mem, hentries]

/-- A text of sections ends its lines with line feeds alone. -/
theorem return_not_mem_writeSections {tables : List Section}
    (h : ∀ table ∈ tables, table.IsReadable) : '\r' ∉ write tables := by
  intro hmem
  rcases Text.mem_joinWith hmem with hbetween | ⟨text, htext, hreturn⟩
  · exact absurd hbetween (by decide)
  · obtain ⟨table, htable, rfl⟩ := List.mem_map.1 htext
    exact (h table htable).return_not_mem hreturn

end TextureCatalog.Toml
