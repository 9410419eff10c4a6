import Sctp.Proofs.Toml.Scalars

/-!
# Documents as they are written

A document is a run of lines, each a header or a key with a value, with blanks, comments and empty lines wherever they
may stand. `Run` says so without the reader: a run leads from a text to what is left of it. A run is read as the
statements that its lines make; and where a line begins with a key or with a header, whatever the rest of the text is,
the document is not read or has a statement with that key.
-/

namespace Sctp.Toml

/-! ### Between the lines -/

inductive LineBreak : List Char → Prop where
  | feed : LineBreak ['\n']
  | returnFeed : LineBreak ['\r', '\n']

/-- A comment up to the end of its line, or none. -/
inductive Comment : List Char → Prop where
  | none : Comment []
  | some {text : List Char} (printable : ∀ c ∈ text, Quoted.isPrintable c = true) : Comment ('#' :: text)

/-- Blanks, line breaks, and comments on lines of their own. -/
inductive Filler : List Char → Prop where
  | nil : Filler []
  | space {c : Char} {rest : List Char} (blank : isSpace c = true) (filler : Filler rest) : Filler (c :: rest)
  | line {comment ending rest : List Char} (comment' : Comment comment) (break' : LineBreak ending) (filler : Filler rest) :
    Filler (comment ++ (ending ++ rest))

/-- What follows a statement on its line, and the lines after it. -/
inductive LineEnd : List Char → List Char → Prop where
  | broken {space comment ending : List Char} (blank : IsSpace space) (comment' : Comment comment)
    (break' : LineBreak ending) (rest : List Char) : LineEnd (space ++ (comment ++ (ending ++ rest))) rest
  /-- The last line need not be broken. -/
  | last {space comment : List Char} (blank : IsSpace space) (comment' : Comment comment) : LineEnd (space ++ comment) []

section
variable {comment ending rest filler text : List Char}

theorem lineBreak_append (break' : LineBreak ending) (rest : List Char) :
    Quoted.lineBreak? (ending ++ rest) = some rest := by
  cases break' <;> rfl

theorem stops_lineBreak {p : Char → Bool} (break' : LineBreak ending) (feed : p '\n' = false) (return' : p '\r' = false)
    (rest : List Char) : Stops p (ending ++ rest) := by
  cases break' with
  | feed => exact stops_cons feed
  | returnFeed => exact stops_cons return'

theorem stops_comment {p : Char → Bool} (comment' : Comment comment) (mark : p '#' = false) : Stops p comment := by
  cases comment' with
  | none => exact stops_nil
  | some printable => exact stops_cons mark

/-- What ends a line goes on with nothing else. -/
theorem LineEnd.stops {p : Char → Bool} (ended : LineEnd text rest) (other : p ' ' = false) (tabulator : p '\t' = false)
    (mark : p '#' = false) (feed : p '\n' = false) (return' : p '\r' = false) : Stops p text := by
  cases ended with
  | broken blank comment' break' _ =>
    exact stops_append (blank.stops other tabulator)
      (stops_append (stops_comment comment' mark) (stops_lineBreak break' feed return' _))
  | last blank comment' => exact stops_append (blank.stops other tabulator) (stops_comment comment' mark)

/-- Blanks and a comment are passed over, and then the line has to be broken. -/
theorem lineEnd_append {space : List Char} (blank : IsSpace space) (comment' : Comment comment)
    (stops : Stops Quoted.isPrintable rest) :
    lineEnd (space ++ (comment ++ rest)) = if rest = [] then some [] else Quoted.lineBreak? rest := by
  have begins : Stops isSpace (comment ++ rest) := by
    refine stops_append (stops_comment comment' (by decide)) fun c first => ?_
    have control := stops c first
    refine Bool.or_eq_false_iff.2 ⟨beq_eq_false_iff_ne.2 ?_, beq_eq_false_iff_ne.2 ?_⟩
    · rintro rfl; cases control
    · rintro rfl; cases control
  have skipped : skipSpace (space ++ (comment ++ rest)) = comment ++ rest := skipSpace_append blank begins
  unfold lineEnd
  simp only [skipped]
  cases comment' with
  | none =>
    rw [List.nil_append]
    cases rest with
    | nil => rfl
    | cons c cs =>
      split
      · next same =>
        cases same
        cases stops '#' rfl
      · rfl
  | @some text printable =>
    show (if (text ++ rest).dropWhile Quoted.isPrintable = [] then some [] else
      Quoted.lineBreak? ((text ++ rest).dropWhile Quoted.isPrintable)) = _
    rw [dropWhile_append printable stops]

theorem lineEnd_eq (ended : LineEnd text rest) : lineEnd text = some rest := by
  cases ended with
  | @broken space comment ending blank comment' break' _ =>
    have ne : ending ++ rest ≠ [] := by cases break' <;> simp
    rw [lineEnd_append blank comment' (stops_lineBreak break' (by decide) (by decide) rest), if_neg ne,
      lineBreak_append break']
  | @last space comment blank comment' =>
    have passed := lineEnd_append blank comment' stops_nil
    rwa [List.append_nil, if_pos rfl] at passed

theorem LineEnd.length_le (ended : LineEnd text rest) : rest.length ≤ text.length := by
  cases ended with
  | broken blank comment' break' _ =>
    simp only [List.length_append]
    omega
  | last blank comment' => exact Nat.zero_le _

theorem skipFiller_comment {comment : List Char} (printable : ∀ c ∈ comment, Quoted.isPrintable c = true)
    (rest : List Char) : skipFiller true (comment ++ rest) = skipFiller true rest := by
  induction comment with
  | nil => rfl
  | cons c comment ih =>
    rw [List.cons_append, skipFiller, if_pos (by simpa using printable c List.mem_cons_self)]
    exact ih fun c mem => printable c (List.mem_cons_of_mem _ mem)

theorem skipFiller_lineBreak (inside : Bool) (break' : LineBreak ending) (rest : List Char) :
    skipFiller inside (ending ++ rest) = skipFiller false rest := by
  cases break' <;> cases inside <;> simp [skipFiller, Quoted.isPrintable]

/-- Filler is passed over. -/
theorem skipFiller_append (filler' : Filler filler) (rest : List Char) :
    skipFiller false (filler ++ rest) = skipFiller false rest := by
  induction filler' with
  | nil => rfl
  | @space c more blank _ ih =>
    have blank : c = ' ' ∨ c = '\t' := by simpa [isSpace] using blank
    have mark : c ≠ '#' := by rcases blank with rfl | rfl <;> decide
    rw [List.cons_append, skipFiller, Bool.false_and, if_neg Bool.false_ne_true, if_neg mark,
      if_pos (blank.imp id .inl)]
    exact ih
  | @line comment ending more comment' break' _ ih =>
    rw [List.append_assoc, List.append_assoc]
    cases comment' with
    | none => rw [List.nil_append, skipFiller_lineBreak false break', ih]
    | some printable =>
      rw [List.cons_append, skipFiller, Bool.false_and, if_neg Bool.false_ne_true, if_pos rfl,
        skipFiller_comment printable, skipFiller_lineBreak true break', ih]

end

/-! ### Lines -/

/-- A key with its value on a line of its own, and what is left of the text behind the line. -/
inductive Line (key : String) (v : Value) : List Char → List Char → Prop where
  | mk {filler written before after word ending rest : List Char} (filler' : Filler filler)
    (spells : SpellsKey key written) (blank : IsSpace before) (blank' : IsSpace after) (value : SpellsValue v word)
    (ended : LineEnd ending rest) : Line key v (filler ++ (written ++ (before ++ '=' :: (after ++ (word ++ ending))))) rest

/-- The header of a table on a line of its own. -/
inductive Header (name : String) : List Char → List Char → Prop where
  | mk {filler before written after ending rest : List Char} (filler' : Filler filler) (blank : IsSpace before)
    (spells : SpellsKey name written) (blank' : IsSpace after) (ended : LineEnd ending rest) :
    Header name (filler ++ '[' :: (before ++ (written ++ (after ++ ']' :: ending)))) rest

/-- A run of lines, the statements that they make, and what is left of the text. -/
inductive Run : List Statement → List Char → List Char → Prop where
  | nil (text : List Char) : Run [] text text
  | line {key : String} {v : Value} {text middle rest : List Char} {statements : List Statement}
    (first : Line key v text middle) (more : Run statements middle rest) : Run (.assign [] key v :: statements) text rest
  | header {name : String} {text middle rest : List Char} {statements : List Statement}
    (first : Header name text middle) (more : Run statements middle rest) : Run (.header [] name :: statements) text rest

/-- Nothing but filler, and perhaps a comment that the text ends with. -/
inductive Trailing : List Char → Prop where
  | mk {filler comment : List Char} (filler' : Filler filler) (comment' : Comment comment) : Trailing (filler ++ comment)

/-- A text begins with a key, whatever follows it. -/
inductive BeginsWithKey (name : String) : List Char → Prop where
  | mk {filler written rest : List Char} (filler' : Filler filler) (spells : SpellsKey name written)
    (stops : Stops isBareKeyChar rest) : BeginsWithKey name (filler ++ (written ++ rest))

/-- A text begins with the header of a table or of an element, in whose path the name comes first. -/
inductive BeginsWithHeader (name : String) : List Char → Prop where
  | table {filler before written rest : List Char} (filler' : Filler filler) (blank : IsSpace before)
    (spells : SpellsKey name written) (stops : Stops isBareKeyChar rest) :
    BeginsWithHeader name (filler ++ '[' :: (before ++ (written ++ rest)))
  | element {filler before written rest : List Char} (filler' : Filler filler) (blank : IsSpace before)
    (spells : SpellsKey name written) (stops : Stops isBareKeyChar rest) :
    BeginsWithHeader name (filler ++ '[' :: '[' :: (before ++ (written ++ rest)))

/-! ### Reading a line -/

/-- A character that stands neither between the lines nor before a header. -/
def StartsStatement (c : Char) : Prop := c ≠ '#' ∧ c ≠ ' ' ∧ c ≠ '\t' ∧ c ≠ '\n' ∧ c ≠ '\r'

theorem StartsKey.startsStatement {c : Char} (starts : StartsKey c) : StartsStatement c :=
  ⟨starts.ne '#' (by decide), starts.ne ' ' (by decide), starts.ne '\t' (by decide), starts.ne '\n' (by decide),
    starts.ne '\r' (by decide)⟩

theorem startsStatement_bracket : StartsStatement '[' := by
  refine ⟨?_, ?_, ?_, ?_, ?_⟩ <;> decide

variable {name key : String} {v : Value} {text rest middle filler : List Char} {statement : Statement}
  {statements behind : List Statement}

/-- A statement is read behind filler, and then what follows it. -/
theorem readStatements_succ (filler' : Filler filler) {c : Char} {cs : List Char} (starts : StartsStatement c) (fuel : Nat) :
    readStatements (fuel + 1) (filler ++ c :: cs) =
      (readStatement (c :: cs)).bind fun (statement, rest) => (readStatements fuel rest).map (statement :: ·) := by
  obtain ⟨mark, blank, tabulator, feed, return'⟩ := starts
  have stays : skipFiller false (c :: cs) = c :: cs := by
    rw [skipFiller, Bool.false_and, if_neg Bool.false_ne_true, if_neg mark, if_neg (by simp [blank, tabulator, feed]),
      if_neg fun both => return' both.1]
  rw [readStatements, skipFiller_append filler', stays]

theorem readStatement_of_key {c : Char} {cs : List Char} (starts : StartsKey c) :
    readStatement (c :: cs) = (readAssignment (readValue maxNesting) (c :: cs)).bind fun ((path, key, v), rest) =>
      (lineEnd rest).map (Statement.assign path key v, ·) := by
  have bracket : c ≠ '[' := starts.ne '[' (by decide)
  rw [readStatement]
  · exact fun _ same => bracket (List.cons.inj same).1
  · exact fun _ same => bracket (List.cons.inj same).1

/-- A line is read as its key and its value, or not at all. -/
theorem readStatements_line (line : Line key v text rest) (fuel : Nat) :
    (v.Fits → readStatements (fuel + 1) text = (readStatements fuel rest).map (.assign [] key v :: ·)) ∧
      (¬ v.Fits → readStatements (fuel + 1) text = none) := by
  obtain ⟨filler', spells, blank, blank', value, ended⟩ := line
  next filler written before after word ending =>
  have stops : Stops Scalar.isWordChar ending :=
    ended.stops (by decide) (by decide) (by decide) (by decide) (by decide)
  have begins : Stops isSpace (word ++ ending) := by
    obtain ⟨c, cs, same⟩ := List.exists_cons_of_ne_nil value.ne_nil
    have letter : Scalar.isWordChar c = true := value.isWordChar (same ▸ List.mem_cons_self)
    rw [same]
    refine stops_cons (Bool.or_eq_false_iff.2 ⟨beq_eq_false_iff_ne.2 ?_, beq_eq_false_iff_ne.2 ?_⟩)
    · rintro rfl; cases letter
    · rintro rfl; cases letter
  have read : readKey (written ++ (before ++ '=' :: (after ++ (word ++ ending)))) =
      some (([], key), '=' :: (after ++ (word ++ ending))) :=
    readKey_append (show IsSpace [] by decide) spells blank (by decide) (by decide) (by decide)
  obtain ⟨fits, unfit⟩ := readValue_append value stops maxNesting
  have assignment : readAssignment (readValue maxNesting) (written ++ (before ++ '=' :: (after ++ (word ++ ending)))) =
      (readValue maxNesting (word ++ ending)).map fun read => (([], key, read.1), read.2) := by
    rw [readAssignment, read, Option.bind_some]
    show Option.map _ (readValue maxNesting (skipSpace (after ++ (word ++ ending)))) = _
    rw [skipSpace_append blank' begins]
  obtain ⟨c, cs, same, starts⟩ := spells.starts
  rw [same, List.cons_append] at assignment ⊢
  rw [readStatements_succ filler' starts.startsStatement, readStatement_of_key starts, assignment]
  refine ⟨fun held => ?_, fun held => ?_⟩
  · rw [fits held, Option.map_some, Option.bind_some]
    dsimp only
    rw [lineEnd_eq ended]
    rfl
  · rw [unfit held]
    rfl

/-- A header is read as the name of its table. -/
theorem readStatements_header (header : Header name text rest) (fuel : Nat) :
    readStatements (fuel + 1) text = (readStatements fuel rest).map (.header [] name :: ·) := by
  obtain ⟨filler', blank, spells, blank', ended⟩ := header
  next filler before written after ending =>
  have read : readKey (before ++ (written ++ (after ++ ']' :: ending))) = some (([], name), ']' :: ending) :=
    readKey_append blank spells blank' (by decide) (by decide) (by decide)
  have statement : readStatement ('[' :: (before ++ (written ++ (after ++ ']' :: ending)))) =
      some (.header [] name, rest) := by
    rw [readStatement, read]
    · rw [Option.bind_some]
      show Option.map _ (lineEnd ending) = _
      rw [lineEnd_eq ended]
      rfl
    · exact fun inner => space_key_ne blank spells inner
  rw [readStatements_succ filler' startsStatement_bracket, statement]
  rfl

/-! ### Reading a run -/

theorem Line.length_lt (line : Line key v text rest) : rest.length < text.length := by
  obtain ⟨filler', spells, blank, blank', value, ended⟩ := line
  next filler written before after word ending =>
  have shorter := ended.length_le
  simp only [List.length_append, List.length_cons]
  omega

theorem Header.length_lt (header : Header name text rest) : rest.length < text.length := by
  obtain ⟨filler', blank, spells, blank', ended⟩ := header
  have shorter := ended.length_le
  simp only [List.length_append, List.length_cons]
  omega

/-- A statement whose value, if it has one, is read. -/
def Statement.Fits : Statement → Prop
  | .assign _ _ v => v.Fits
  | _ => True

/-- A run is read as its statements, and then what follows it. -/
theorem readStatements_run (run : Run statements text rest) (fits : ∀ statement ∈ statements, statement.Fits)
    {fuel : Nat} (enough : text.length < fuel) :
    ∃ fuel', rest.length < fuel' ∧ readStatements fuel text = (readStatements fuel' rest).map (statements ++ ·) := by
  induction run generalizing fuel with
  | nil text => exact ⟨fuel, enough, (congrFun Option.map_id _).symm⟩
  | @line key v text middle rest statements first more ih =>
    obtain ⟨fuel, rfl⟩ : ∃ k, fuel = k + 1 := ⟨fuel - 1, by omega⟩
    have shorter : middle.length < fuel := by have := first.length_lt; omega
    obtain ⟨fuel', enough', read⟩ := ih (fun other mem => fits other (List.mem_cons_of_mem _ mem)) shorter
    refine ⟨fuel', enough', ?_⟩
    rw [(readStatements_line first fuel).1 (fits _ List.mem_cons_self), read, Option.map_map]
    rfl
  | @header name text middle rest statements first more ih =>
    obtain ⟨fuel, rfl⟩ : ∃ k, fuel = k + 1 := ⟨fuel - 1, by omega⟩
    have shorter : middle.length < fuel := by have := first.length_lt; omega
    obtain ⟨fuel', enough', read⟩ := ih (fun other mem => fits other (List.mem_cons_of_mem _ mem)) shorter
    refine ⟨fuel', enough', ?_⟩
    rw [readStatements_header first, read, Option.map_map]
    rfl

/-- If anything is read, a line is read as its key and its value. -/
theorem Line.exists_assign (line : Line key v text rest) {fuel : Nat} {all : List Statement}
    (read : readStatements fuel text = some all) :
    v.Fits ∧ ∃ fuel' behind, readStatements fuel' rest = some behind ∧ all = .assign [] key v :: behind := by
  cases fuel with
  | zero => cases read
  | succ fuel =>
    by_cases fits : v.Fits
    · rw [(readStatements_line line fuel).1 fits] at read
      obtain ⟨behind, later, rfl⟩ := Option.map_eq_some_iff.1 read
      exact ⟨fits, fuel, behind, later, rfl⟩
    · rw [(readStatements_line line fuel).2 fits] at read
      cases read

/-- If anything is read, the run is read first. -/
theorem exists_of_readStatements (run : Run statements text rest) {fuel : Nat} {all : List Statement}
    (read : readStatements fuel text = some all) :
    ∃ fuel' behind, readStatements fuel' rest = some behind ∧ all = statements ++ behind := by
  induction run generalizing fuel all with
  | nil text => exact ⟨fuel, all, read, rfl⟩
  | @line key v text middle rest statements first more ih =>
    obtain ⟨-, fuel, others, read', rfl⟩ := first.exists_assign read
    obtain ⟨fuel', behind, read'', rfl⟩ := ih read'
    exact ⟨fuel', behind, read'', rfl⟩
  | @header name text middle rest statements first more ih =>
    cases fuel with
    | zero => cases read
    | succ fuel =>
      rw [readStatements_header first] at read
      obtain ⟨others, read', rfl⟩ := Option.map_eq_some_iff.1 read
      obtain ⟨fuel', behind, read'', rfl⟩ := ih read'
      exact ⟨fuel', behind, read'', rfl⟩

/-- Nothing is read behind the last line. -/
theorem readStatements_trailing (trailing : Trailing text) {fuel : Nat} (enough : text.length < fuel) :
    readStatements fuel text = some [] := by
  obtain ⟨fuel, rfl⟩ : ∃ k, fuel = k + 1 := ⟨fuel - 1, by omega⟩
  obtain ⟨filler', comment'⟩ := trailing
  next filler comment =>
  have nothing : skipFiller false (filler ++ comment) = [] := by
    rw [skipFiller_append filler']
    cases comment' with
    | none => rfl
    | some printable =>
      have passed := skipFiller_comment printable []
      rw [List.append_nil] at passed
      rw [skipFiller, Bool.false_and, if_neg Bool.false_ne_true, if_pos rfl, passed]
      rfl
  rw [readStatements, nothing]

theorem Line.isLeaf (line : Line key v text rest) : v.IsLeaf := by
  obtain ⟨-, -, -, -, value, -⟩ := line
  cases value <;> trivial

/-- What begins with a key is read as a value for the key, or for a key in its table. -/
theorem BeginsWithKey.exists_assign (begins : BeginsWithKey name text) {fuel : Nat} {all : List Statement}
    (read : readStatements fuel text = some all) :
    ∃ path key v behind, all = .assign path key v :: behind ∧ Entries.firstPart path key = name := by
  obtain ⟨filler', spells, stops⟩ := begins
  next filler written rest =>
  cases fuel with
  | zero => cases read
  | succ fuel =>
    have first {path : List String} {last : String} {behind : List Char}
        (read : readKey (written ++ rest) = some ((path, last), behind)) : Entries.firstPart path last = name :=
      firstPart_of_readKey (show IsSpace [] by decide) spells stops read
    obtain ⟨c, cs, same, starts⟩ := spells.starts
    rw [same, List.cons_append] at read first
    rw [readStatements_succ filler' starts.startsStatement, readStatement_of_key starts] at read
    obtain ⟨⟨statement, next⟩, line, others⟩ := Option.bind_eq_some_iff.1 read
    obtain ⟨behind, -, rfl⟩ := Option.map_eq_some_iff.1 others
    obtain ⟨⟨⟨path, key, v⟩, behindValue⟩, assignment, ended⟩ := Option.bind_eq_some_iff.1 line
    obtain ⟨_, -, made⟩ := Option.map_eq_some_iff.1 ended
    cases made
    obtain ⟨⟨⟨path', key'⟩, behindKey⟩, keyRead, value⟩ := Option.bind_eq_some_iff.1 assignment
    dsimp only at value
    split at value
    · obtain ⟨_, -, made⟩ := Option.map_eq_some_iff.1 value
      cases made
      exact ⟨path, key, _, behind, rfl, first keyRead⟩
    · cases value

/-- What begins with a header is read as the header of a table or of an element. -/
theorem BeginsWithHeader.exists_header (begins : BeginsWithHeader name text) {fuel : Nat} {all : List Statement}
    (read : readStatements fuel text = some all) :
    ∃ path key behind, (all = .header path key :: behind ∨ all = .elementHeader path key :: behind) ∧
      Entries.firstPart path key = name := by
  cases fuel with
  | zero => cases read
  | succ fuel =>
    cases begins with
    | @table filler before written rest filler' blank spells stops =>
      rw [readStatements_succ filler' startsStatement_bracket] at read
      obtain ⟨⟨statement, next⟩, line, others⟩ := Option.bind_eq_some_iff.1 read
      obtain ⟨behind, -, rfl⟩ := Option.map_eq_some_iff.1 others
      rw [readStatement] at line
      · obtain ⟨⟨⟨path, key⟩, behindKey⟩, keyRead, ended⟩ := Option.bind_eq_some_iff.1 line
        dsimp only at ended
        split at ended
        · obtain ⟨_, -, made⟩ := Option.map_eq_some_iff.1 ended
          cases made
          exact ⟨path, key, behind, .inl rfl, firstPart_of_readKey blank spells stops keyRead⟩
        · cases ended
      · exact fun inner => space_key_ne blank spells inner
    | @element filler before written rest filler' blank spells stops =>
      rw [readStatements_succ filler' startsStatement_bracket] at read
      obtain ⟨⟨statement, next⟩, line, others⟩ := Option.bind_eq_some_iff.1 read
      obtain ⟨behind, -, rfl⟩ := Option.map_eq_some_iff.1 others
      rw [readStatement] at line
      obtain ⟨⟨⟨path, key⟩, behindKey⟩, keyRead, ended⟩ := Option.bind_eq_some_iff.1 line
      dsimp only at ended
      split at ended
      · obtain ⟨_, -, made⟩ := Option.map_eq_some_iff.1 ended
        cases made
        exact ⟨path, key, behind, .inr rfl, firstPart_of_readKey blank spells stops keyRead⟩
      · cases ended

/-! ### Documents -/

/-- A text without the mark that may stand in front of it. -/
def withoutMark : List Char → List Char
  | '\ufeff' :: cs => cs
  | cs => cs

/-- A document of sections, each a header and a line for each key, in any layout. -/
def WrittenAs (sections : Sections) (text : List Char) : Prop :=
  ∃ rest, Run sections.statements (withoutMark text) rest ∧ Trailing rest

theorem read_eq (text : List Char) :
    read text = (readStatements ((withoutMark text).length + 1) (withoutMark text)).bind Document.ofStatements := by
  unfold read
  split
  · rfl
  · next other =>
    have plain : withoutMark text = text := by
      unfold withoutMark
      split
      · exact absurd rfl (other _)
      · rfl
    rw [plain]

/-- The sections of a document are read as their tables. -/
theorem read_of_writtenAs {sections : Sections} (written : WrittenAs sections text) (distinct : sections.Distinct)
    (fits : ∀ name entries key v, (name, entries) ∈ sections → (key, v) ∈ entries → v.Fits) :
    read text = some sections.tables := by
  obtain ⟨rest, run, trailing⟩ := written
  have fits' : ∀ statement ∈ sections.statements, statement.Fits := by
    intro statement mem
    obtain ⟨⟨name, entries⟩, there, mem⟩ := List.mem_flatMap.1 mem
    rcases List.mem_cons.1 mem with rfl | mem
    · trivial
    · obtain ⟨⟨key, v⟩, inside, rfl⟩ := List.mem_map.1 mem
      exact fits name entries key v there inside
  obtain ⟨fuel, enough, read'⟩ := readStatements_run run fits' (Nat.lt_succ_self _)
  rw [read_eq, read', readStatements_trailing trailing enough]
  show Document.ofStatements (sections.statements ++ []) = _
  rw [List.append_nil, Sections.ofStatements_statements distinct]

/-! ### The plainest layout -/

/-- A name that needs no quotes. -/
def IsBare (name : String) : Prop := name.toList ≠ [] ∧ ∀ c ∈ name.toList, isBareKeyChar c = true

instance (name : String) : Decidable (IsBare name) :=
  have : Decidable (∀ c ∈ name.toList, isBareKeyChar c = true) := List.decidableBAll _ _
  inferInstanceAs (Decidable (_ ∧ _))

/-- The plainest word for an integer or a truth value. -/
def Value.word : Value → List Char
  | .integer n => (if n < 0 then Sign.minus else Sign.none).text ++ Nat.toDigits 10 n.natAbs
  | .boolean on => if on then "true".toList else "false".toList
  | _ => []

theorem spells_integer (n : Int) : SpellsValue (.integer n) (Value.integer n).word := by
  have spells := SpellsValue.integer (if n < 0 then .minus else .none) n.natAbs
  have same : Sign.apply n.natAbs (if n < 0 then .minus else .none) = n := by
    split
    · show -(n.natAbs : Int) = n
      omega
    · show (n.natAbs : Int) = n
      omega
  rwa [same] at spells

namespace Sections

/-- The lines of a section in front of a text. -/
def printLines (entries : Entries) (rest : List Char) : List Char :=
  entries.foldr (fun (key, v) rest => key.toList ++ ' ' :: '=' :: ' ' :: (v.word ++ '\n' :: rest)) rest

/-- A document of sections with nothing between the lines. -/
def print (sections : Sections) : List Char :=
  sections.foldr (fun (name, entries) rest => '[' :: (name.toList ++ ']' :: '\n' :: printLines entries rest)) []

theorem lineEnd_feed (rest : List Char) : LineEnd ('\n' :: rest) rest :=
  @LineEnd.broken [] [] ['\n'] (by decide) .none .feed rest

theorem run_printLines {entries : Entries} (plain : ∀ key v, (key, v) ∈ entries → IsBare key ∧ SpellsValue v v.word)
    (more : Run statements rest middle) :
    Run (entries.map (fun (key, v) => .assign [] key v) ++ statements) (printLines entries rest) middle := by
  have blank : IsSpace [' '] := by decide
  induction entries with
  | nil => exact more
  | cons entry entries ih =>
    obtain ⟨key, v⟩ := entry
    obtain ⟨bare, value⟩ := plain key v List.mem_cons_self
    exact .line (.mk .nil (.bare bare.1 bare.2) blank blank value (lineEnd_feed _))
      (ih fun key v mem => plain key v (List.mem_cons_of_mem _ mem))

/-- Sections with names that need no quotes are written in the plainest layout. -/
theorem writtenAs_print {sections : Sections}
    (plain : ∀ name entries, (name, entries) ∈ sections →
      IsBare name ∧ ∀ key v, (key, v) ∈ entries → IsBare key ∧ SpellsValue v v.word) :
    WrittenAs sections sections.print := by
  have run : Run sections.statements sections.print [] := by
    induction sections with
    | nil => exact .nil []
    | cons entry rest ih =>
      obtain ⟨name, entries⟩ := entry
      obtain ⟨bare, values⟩ := plain name entries List.mem_cons_self
      have others := ih fun name entries mem => plain name entries (List.mem_cons_of_mem _ mem)
      have blank : IsSpace [] := by decide
      exact .header (.mk .nil blank (.bare bare.1 bare.2) blank (lineEnd_feed _)) (run_printLines values others)
  have unmarked : withoutMark sections.print = sections.print := by cases sections <;> rfl
  have trailing : Trailing ([] ++ []) := .mk .nil .none
  exact ⟨[], unmarked.symm ▸ run, trailing⟩

end Sections
end Sctp.Toml
