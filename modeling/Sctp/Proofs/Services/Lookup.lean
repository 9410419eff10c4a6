import Sctp.Proofs.Text.Digits
import Sctp.Proofs.Text.Lines
import Sctp.Services

/-!
# Which port a service name stands for

A line of a services file offers a port to a service under a protocol; `Offers` says when, in terms of the line's text.
The port of a service is the one that the first line offers it under the preferred protocol among those under which any
line does. A port's text is empty, or a number, or the name of a service; names are the same up to the case of letters.
-/

namespace Sctp

open Text

/-! ### Names -/

namespace Text

theorem asciiLower_eq_toLower (c : Char) : asciiLower c = c.toLower := by
  by_cases small : c.toNat < 91
  · have letters : ∀ n < 91, asciiLower (Char.ofNat n) = (Char.ofNat n).toLower := by decide
    have lower := letters c.toNat small
    rwa [Char.ofNat_toNat] at lower
  · have zed : 'Z'.toNat = 90 := rfl
    have other : ¬ (c.val ≥ 'A'.val ∧ c.val ≤ 'Z'.val) := fun upper => small (Nat.lt_succ_of_le upper.2)
    have kept : c.toLower = c := dif_neg other
    rw [asciiLower, if_neg (by omega), kept]

/-- Names are equal up to the case of ASCII letters if they are the same in lower case. -/
theorem sameIgnoringCase_iff {a b : List Char} :
    sameIgnoringCase a b = true ↔ a.map Char.toLower = b.map Char.toLower := by
  have lower : asciiLower = Char.toLower := funext asciiLower_eq_toLower
  rw [sameIgnoringCase, lower, beq_iff_eq]

theorem toLower_of_isDigit {c : Char} (digit : c.toLower.isDigit = true) : c.toLower = c := by
  by_cases small : c.toNat < 91
  · have letters : ∀ n < 91, (Char.ofNat n).toLower.isDigit = true → (Char.ofNat n).toLower = Char.ofNat n := by decide
    have same := letters c.toNat small
    rw [Char.ofNat_toNat] at same
    exact same digit
  · have zed : 'Z'.toNat = 90 := rfl
    rw [← asciiLower_eq_toLower, asciiLower, if_neg (by omega)]

/-- Digits have no case. -/
theorem eq_of_digits {a b : List Char} (decimal : ∀ c ∈ a, c.isDigit = true)
    (same : a.map Char.toLower = b.map Char.toLower) : b = a := by
  induction a generalizing b with
  | nil => exact List.map_eq_nil_iff.1 same.symm
  | cons c a ih =>
    obtain ⟨digit, others⟩ := List.forall_mem_cons.1 decimal
    cases b with
    | nil => cases same
    | cons d b =>
      obtain ⟨first, rest⟩ := List.cons.inj same
      have own : c.toLower = c := by
        rw [← asciiLower_eq_toLower, asciiLower, if_neg]
        have nine : c.toNat ≤ 57 := of_decide_eq_true (Bool.and_eq_true_iff.1 digit).2
        have first : 'A'.toNat = 65 := rfl
        omega
      have digit' : d.toLower.isDigit = true := by rw [← first, own, digit]
      rw [← toLower_of_isDigit digit', ← first, own, ih others rest]

end Text

namespace Services

variable {file text service other protocol line : List Char} {port : UInt16}

/-! ### Lines -/

/-- A line offers a port to a service under a protocol: before its comment it has a name and the port with the
protocol, separated by the first slash, and maybe aliases; the service goes by the name or an alias. -/
inductive Offers (service protocol : List Char) (port : UInt16) (line : List Char) : Prop where
  | intro {content name portText : List Char} {aliases : List (List Char)} (uncommented : Uncommented '#' line content)
    (fields : Fields content (name :: (portText ++ '/' :: protocol) :: aliases)) (first : '/' ∉ portText)
    (spells : SpellsPort port portText) {own : List Char} (goesBy : own ∈ name :: aliases)
    (same : own.map Char.toLower = service.map Char.toLower)

/-- The port that a line gives to a service under a protocol. -/
def portOf (protocol service line : List Char) : Option UInt16 := (readLine line).bind (Entry.portFor protocol service)

theorem answersTo_iff {entry : Entry} : entry.answersTo service = true ↔
    ∃ own ∈ entry.name :: entry.aliases, own.map Char.toLower = service.map Char.toLower := by
  simp [Entry.answersTo, sameIgnoringCase_iff]

theorem portFor_eq_some_iff {entry : Entry} : entry.portFor protocol service = some port ↔
    entry.protocol = protocol ∧ entry.answersTo service = true ∧ SpellsPort port entry.port := by
  unfold Entry.portFor
  split
  · next fits => rw [unsigned16_eq_some_iff, and_iff_right fits.1, and_iff_right fits.2]
  · next unfit =>
    constructor
    · rintro ⟨⟩
    · exact fun ⟨same, answers, _⟩ => absurd ⟨same, answers⟩ unfit

/-- A line is read as an entry if that is what it says before its comment. -/
theorem readLine_eq_some_iff {entry : Entry} : readLine line = some entry ↔
    ∃ content, Uncommented '#' line content ∧ '/' ∉ entry.port ∧
      Fields content (entry.name :: (entry.port ++ '/' :: entry.protocol) :: entry.aliases) := by
  have content : Uncommented '#' line (line.takeWhile (· ≠ '#')) := takeWhile_eq_iff.1 rfl
  unfold readLine
  constructor
  · intro read
    refine ⟨_, content, ?_⟩
    split at read
    · next name portProtocol aliases words =>
      obtain ⟨⟨port, protocol⟩, cut, rfl⟩ := Option.map_eq_some_iff.1 read
      obtain ⟨rfl, first⟩ := cutFirst_eq_some_iff.1 cut
      exact ⟨first, words_eq_iff.1 words⟩
    · cases read
  · rintro ⟨content, uncommented, first, fields⟩
    rw [takeWhile_eq_iff.2 uncommented, words_eq_iff.2 fields]
    dsimp only
    rw [cutFirst_eq_some_iff.2 ⟨rfl, first⟩]
    rfl

/-- What a line offers is what is read of it. -/
theorem portOf_eq_some_iff : portOf protocol service line = some port ↔ Offers service protocol port line := by
  rw [portOf, Option.bind_eq_some_iff]
  constructor
  · rintro ⟨entry, read, fits⟩
    obtain ⟨content, uncommented, first, fields⟩ := readLine_eq_some_iff.1 read
    obtain ⟨rfl, answers, spells⟩ := portFor_eq_some_iff.1 fits
    obtain ⟨own, goesBy, same⟩ := answersTo_iff.1 answers
    exact .intro uncommented fields first spells goesBy same
  · rintro ⟨uncommented, fields, first, spells, goesBy, same⟩
    rename_i name portText aliases own
    refine ⟨⟨name, portText, protocol, aliases⟩, readLine_eq_some_iff.2 ⟨_, uncommented, first, fields⟩, ?_⟩
    exact portFor_eq_some_iff.2 ⟨rfl, answersTo_iff.2 ⟨own, goesBy, same⟩, spells⟩

/-! ### Files -/

/-- Of these lines, the first one that offers the service any port under the protocol offers this one. -/
def FirstOffer (service protocol : List Char) (port : UInt16) (lines : List (List Char)) : Prop :=
  ∃ earlier line later, lines = earlier ++ line :: later ∧ Offers service protocol port line ∧
    ∀ before ∈ earlier, ∀ n, ¬ Offers service protocol n before

/-- None of these lines offers the service a port under the protocol. -/
def NoOffer (service protocol : List Char) (lines : List (List Char)) : Prop :=
  ∀ line ∈ lines, ∀ n, ¬ Offers service protocol n line

/-- The port that these lines give to a service: the first offer under SCTP, else the first one under TCP, else the
first one under UDP. -/
inductive Preferred (service : List Char) (port : UInt16) (lines : List (List Char)) : Prop where
  | sctp (first : FirstOffer service "sctp".toList port lines)
  | tcp (noSctp : NoOffer service "sctp".toList lines) (first : FirstOffer service "tcp".toList port lines)
  | udp (noSctp : NoOffer service "sctp".toList lines) (noTcp : NoOffer service "tcp".toList lines)
    (first : FirstOffer service "udp".toList port lines)

variable {lines : List (List Char)}

theorem portOf_eq_none_iff : portOf protocol service line = none ↔ ∀ n, ¬ Offers service protocol n line := by
  simp only [Option.eq_none_iff_forall_ne_some, Ne, portOf_eq_some_iff]

theorem firstOffer_iff : lines.findSome? (portOf protocol service) = some port ↔ FirstOffer service protocol port lines := by
  simp only [List.findSome?_eq_some_iff, portOf_eq_some_iff, portOf_eq_none_iff, FirstOffer]

theorem noOffer_iff : lines.findSome? (portOf protocol service) = none ↔ NoOffer service protocol lines := by
  simp only [List.findSome?_eq_none_iff, portOf_eq_none_iff, NoOffer]

/-- A carriage return at the end of a line is white space, or part of the comment. -/
theorem readLine_return (line : List Char) : readLine (line ++ ['\r']) = readLine line := by
  have content : Uncommented '#' line (line.takeWhile (· ≠ '#')) := takeWhile_eq_iff.1 rfl
  unfold readLine
  generalize line.takeWhile (· ≠ '#') = content at content
  cases content with
  | plain free =>
    have plain : Uncommented '#' (line ++ ['\r']) (line ++ ['\r']) := .plain (by simp [free])
    rw [takeWhile_eq_iff.2 plain, words_append_blank (by decide)]
  | @commented _ comment free =>
    have commented : Uncommented '#' (content ++ '#' :: comment ++ ['\r']) content := by
      rw [List.append_assoc, List.cons_append]
      exact .commented free
    rw [takeWhile_eq_iff.2 commented]

theorem find_eq (are : Lines file lines) (service : List Char) :
    find file service = protocols.findSome? fun protocol => lines.findSome? (portOf protocol service) := by
  have entries_eq : entries file = lines.filterMap readLine := filterMap_lines rfl readLine_return are
  unfold find
  congr 1
  funext protocol
  rw [entries_eq, ← List.head?_filterMap, List.filterMap_filterMap, List.head?_filterMap]
  rfl

/-- The port of a service is the preferred one. -/
theorem find_eq_some_iff (are : Lines file lines) : find file service = some port ↔ Preferred service port lines := by
  rw [find_eq are]
  simp only [protocols, List.findSome?_cons, List.findSome?_nil]
  constructor
  · intro found
    cases sctp : lines.findSome? (portOf "sctp".toList service) with
    | some n =>
      rw [sctp] at found
      exact .sctp (firstOffer_iff.1 (sctp.trans found))
    | none =>
    have noSctp := noOffer_iff.1 sctp
    cases tcp : lines.findSome? (portOf "tcp".toList service) with
    | some n =>
      rw [sctp, tcp] at found
      exact .tcp noSctp (firstOffer_iff.1 (tcp.trans found))
    | none =>
    have noTcp := noOffer_iff.1 tcp
    cases udp : lines.findSome? (portOf "udp".toList service) with
    | some n =>
      rw [sctp, tcp, udp] at found
      exact .udp noSctp noTcp (firstOffer_iff.1 (udp.trans found))
    | none =>
      rw [sctp, tcp, udp] at found
      cases found
  · rintro (first | ⟨noSctp, first⟩ | ⟨noSctp, noTcp, first⟩)
    · rw [firstOffer_iff.2 first]
    · rw [noOffer_iff.2 noSctp, firstOffer_iff.2 first]
    · rw [noOffer_iff.2 noSctp, noOffer_iff.2 noTcp, firstOffer_iff.2 first]

/-- A service has no port if no line offers it one. -/
theorem find_eq_none_iff (are : Lines file lines) :
    find file service = none ↔ ∀ protocol ∈ protocols, NoOffer service protocol lines := by
  rw [find_eq are, List.findSome?_eq_none_iff]
  exact forall₂_congr fun _ _ => noOffer_iff

/-! ### Names that are the same -/

theorem Offers.of_same {a b : List Char} (same : a.map Char.toLower = b.map Char.toLower)
    (offers : Offers a protocol port line) : Offers b protocol port line := by
  obtain ⟨uncommented, fields, first, spells, goesBy, own⟩ := offers
  exact .intro uncommented fields first spells goesBy (own.trans same)

theorem portOf_congr {a b : List Char} (same : a.map Char.toLower = b.map Char.toLower) :
    portOf protocol a line = portOf protocol b line :=
  Option.ext fun _ => by
    rw [portOf_eq_some_iff, portOf_eq_some_iff]
    exact ⟨.of_same same, .of_same same.symm⟩

/-- The same name in other letters has the same port. -/
theorem find_congr {a b : List Char} (same : a.map Char.toLower = b.map Char.toLower) (file : List Char) :
    find file a = find file b := by
  obtain ⟨lines, are⟩ := exists_lines file
  have offered (protocol : List Char) : portOf protocol a = portOf protocol b := funext fun _ => portOf_congr same
  simp only [find_eq are, offered]

/-! ### Port texts -/

/-- What the text of a port stands for, with the lines of a services file: nothing is port 0, digits are a number, and
anything else is the name of a service, of the file or well known. -/
inductive Means (lines : List (List Char)) : List Char → Option UInt16 → Prop where
  | empty : Means lines [] (some 0)
  | number {digits : List Char} {port : UInt16} (ne : digits ≠ []) (decimal : ∀ c ∈ digits, c.isDigit = true)
    (value : Nat.ofDigitChars 10 digits 0 = port.toNat) : Means lines digits (some port)
  | tooLarge {digits : List Char} (ne : digits ≠ []) (decimal : ∀ c ∈ digits, c.isDigit = true)
    (large : 65535 < Nat.ofDigitChars 10 digits 0) : Means lines digits none
  | offered {text : List Char} {port : UInt16} (name : ∃ c ∈ text, c.isDigit = false)
    (preferred : Preferred text port lines) : Means lines text (some port)
  | wellKnown {text : List Char} {row : String × UInt16} (name : ∃ c ∈ text, c.isDigit = false)
    (unoffered : ∀ protocol ∈ protocols, NoOffer text protocol lines) (listed : row ∈ wellKnown)
    (same : row.1.toList.map Char.toLower = text.map Char.toLower) : Means lines text (some row.2)
  | unknown {text : List Char} (name : ∃ c ∈ text, c.isDigit = false)
    (unoffered : ∀ protocol ∈ protocols, NoOffer text protocol lines)
    (unlisted : ∀ row ∈ wellKnown, row.1.toList.map Char.toLower ≠ text.map Char.toLower) : Means lines text none

theorem findWellKnown_eq_some_iff : findWellKnown text = some port ↔
    ∃ row ∈ wellKnown, row.1.toList.map Char.toLower = text.map Char.toLower ∧ row.2 = port := by
  have distinct : ∀ row ∈ wellKnown, ∀ other ∈ wellKnown,
      row.1.toList.map Char.toLower = other.1.toList.map Char.toLower → row = other := by decide
  let goesBy (row : String × UInt16) : Bool := sameIgnoringCase row.1.toList text
  show (wellKnown.find? goesBy).map (·.2) = some port ↔ _
  rw [Option.map_eq_some_iff]
  constructor
  · rintro ⟨row, found, rfl⟩
    have own : goesBy row = true := List.find?_some found
    exact ⟨row, List.mem_of_find?_eq_some found, sameIgnoringCase_iff.1 own, rfl⟩
  · rintro ⟨row, listed, same, rfl⟩
    cases found : wellKnown.find? goesBy with
    | none => exact absurd (sameIgnoringCase_iff.2 same) (List.find?_eq_none.1 found row listed)
    | some other =>
      have own : goesBy other = true := List.find?_some found
      have equal := distinct row listed other (List.mem_of_find?_eq_some found) (same.trans (sameIgnoringCase_iff.1 own).symm)
      exact ⟨other, rfl, congrArg Prod.snd equal.symm⟩

theorem findWellKnown_eq_none_iff : findWellKnown text = none ↔
    ∀ row ∈ wellKnown, row.1.toList.map Char.toLower ≠ text.map Char.toLower := by
  rw [Option.eq_none_iff_forall_ne_some]
  constructor
  · intro unknown row listed same
    exact unknown row.2 (findWellKnown_eq_some_iff.2 ⟨row, listed, same, rfl⟩)
  · intro unlisted port known
    obtain ⟨row, listed, same, -⟩ := findWellKnown_eq_some_iff.1 known
    exact unlisted row listed same

theorem port_digits (file? : Option (List Char)) (ne : text ≠ []) (decimal : ∀ c ∈ text, c.isDigit = true) :
    Services.port file? text = unsigned16 text := by
  have digits : text.all isDecimal = true := List.all_eq_true.2 fun c mem => isDecimal_eq_isDigit c ▸ decimal c mem
  rw [Services.port, if_neg ne, if_pos digits]

theorem port_name (file? : Option (List Char)) (name : ∃ c ∈ text, c.isDigit = false) :
    Services.port file? text = (find (file?.getD []) text).or (findWellKnown text) := by
  obtain ⟨c, mem, other⟩ := name
  have notDigits : ¬ text.all isDecimal = true := fun digits => by
    have digit := List.all_eq_true.1 digits c mem
    rw [isDecimal_eq_isDigit, other] at digit
    cases digit
  rw [Services.port, if_neg (List.ne_nil_of_mem mem), if_neg notDigits]
  cases file? <;> rfl

theorem port_of_means {file? : Option (List Char)} (are : Lines (file?.getD []) lines)
    {result : Option UInt16} (means : Means lines text result) : Services.port file? text = result := by
  cases means with
  | empty => rfl
  | number ne decimal value => rw [port_digits file? ne decimal, unsigned16_eq_some_iff.2 (.bare ne decimal value)]
  | tooLarge ne decimal large =>
    rw [port_digits file? ne decimal, Option.eq_none_iff_forall_ne_some]
    intro port read
    have small := port.toNat_lt
    cases unsigned16_eq_some_iff.1 read with
    | bare _ _ value => omega
    | plus _ _ _ => exact absurd (decimal '+' List.mem_cons_self) (by decide)
  | offered name preferred => rw [port_name file? name, (find_eq_some_iff are).2 preferred, Option.some_or]
  | wellKnown name unoffered listed same =>
    rw [port_name file? name, (find_eq_none_iff are).2 unoffered, Option.none_or,
      findWellKnown_eq_some_iff.2 ⟨_, listed, same, rfl⟩]
  | unknown name unoffered unlisted =>
    rw [port_name file? name, (find_eq_none_iff are).2 unoffered, Option.none_or,
      findWellKnown_eq_none_iff.2 unlisted]

theorem means_port {file? : Option (List Char)} (are : Lines (file?.getD []) lines) (text : List Char) :
    Means lines text (Services.port file? text) := by
  by_cases empty : text = []
  · subst empty
    exact .empty
  by_cases decimal : ∀ c ∈ text, c.isDigit = true
  · by_cases large : 65535 < Nat.ofDigitChars 10 text 0
    · have means : Means lines text none := .tooLarge empty decimal large
      rwa [port_of_means are means]
    · have value : Nat.ofDigitChars 10 text 0 = (UInt16.ofNat (Nat.ofDigitChars 10 text 0)).toNat :=
        (UInt16.toNat_ofNat_of_lt' (Nat.lt_succ_of_le (Nat.not_lt.1 large))).symm
      have means : Means lines text (some _) := .number empty decimal value
      rwa [port_of_means are means]
  · have name : ∃ c ∈ text, c.isDigit = false := by simpa using decimal
    rw [port_name file? name]
    cases found : find (file?.getD []) text with
    | some port => exact .offered name ((find_eq_some_iff are).1 found)
    | none =>
      have unoffered := (find_eq_none_iff are).1 found
      rw [Option.none_or]
      cases known : findWellKnown text with
      | some port =>
        obtain ⟨row, listed, same, rfl⟩ := findWellKnown_eq_some_iff.1 known
        exact .wellKnown name unoffered listed same
      | none => exact .unknown name unoffered (findWellKnown_eq_none_iff.1 known)

/-- The same name in other letters is the same text of a port. -/
theorem port_congr {a b : List Char} (same : a.map Char.toLower = b.map Char.toLower) (file? : Option (List Char)) :
    Services.port file? a = Services.port file? b := by
  by_cases decimal : ∀ c ∈ a, c.isDigit = true
  · rw [eq_of_digits decimal same]
  by_cases decimal' : ∀ c ∈ b, c.isDigit = true
  · rw [eq_of_digits decimal' same.symm]
  · have known : findWellKnown a = findWellKnown b := by
      apply Option.ext
      intro port
      rw [findWellKnown_eq_some_iff, findWellKnown_eq_some_iff, same]
    rw [port_name file? (by simpa using decimal), port_name file? (by simpa using decimal'), find_congr same, known]

/-- What a services file gives that has these lines, and what a port's text means with it. -/
structure AnswersFor (file? : Option (List Char)) (lines : List (List Char)) : Prop where
  found : ∀ service port, find (file?.getD []) service = some port ↔ Preferred service port lines
  missing : ∀ service, find (file?.getD []) service = none ↔ ∀ protocol ∈ protocols, NoOffer service protocol lines
  port : ∀ text result, Services.port file? text = result ↔ Means lines text result
  /-- The case of letters does not matter. -/
  caseless : ∀ a b, a.map Char.toLower = b.map Char.toLower →
    find (file?.getD []) a = find (file?.getD []) b ∧ Services.port file? a = Services.port file? b

/-- A service has the port that the first line offers it under the most preferred protocol under which any line does; a
port's text means what `Means` says, where a file that is missing or cannot be read has no lines; and the case of
letters does not matter. -/
theorem preferred_offer (file? : Option (List Char)) :
    (∃ lines, Lines (file?.getD []) lines) ∧ ∀ lines, Lines (file?.getD []) lines → AnswersFor file? lines := by
  refine ⟨exists_lines _, fun lines are => ?_⟩
  constructor
  case found =>
    intro service port
    exact find_eq_some_iff are
  case missing =>
    intro service
    exact find_eq_none_iff are
  case port =>
    intro text result
    constructor
    · rintro rfl
      exact means_port are text
    · exact port_of_means are
  case caseless =>
    intro a b same
    exact ⟨find_congr same _, port_congr same file?⟩

/-- An offer under SCTP comes before an earlier one under TCP, and a line whose port is no number hides none. -/
example : find "dia 3868/tcp\r\ndia x/sctp\r\nd 3869/sctp DIA # signalling".toList "Dia".toList = some 3869 := by
  decide +kernel

end Services
end Sctp
