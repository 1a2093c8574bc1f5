import SchemaScaffold.Proofs.Yaml.Printable
import SchemaScaffold.Yaml.Scalar.Block

/-!
# Literal blocks read back

A text in lines of its own is read back: its lines without their indentation, and the breaks at
its end as the header says.
-/

namespace SchemaScaffold
namespace Yaml
namespace Block

/-- A line of text. -/
def IsLine (line : List Char) : Prop :=
  line ≠ [] ∧ ∀ c ∈ line, isBreak c = false

/-- Lines without text. -/
def AreBreaks (breaks : List Char) : Prop :=
  ∀ c ∈ breaks, isBreak c = true

/-- What a header says of a text that ends with a break and others behind it. -/
def Chomping.ofBreaks (others : List Char) : Chomping :=
  if others.isEmpty then .clip else .keep

/-- Lines of text with breaks between them, the first of which begins the text, and what a header
says of the breaks at the end. -/
inductive Lines : Chomping → List Char → Prop
  | last {line : List Char} (isLine : IsLine line) : Lines .strip line
  | ended {line : List Char} (isLine : IsLine line) {b : Char} (breaks : isBreak b = true)
      {others : List Char} (empty : AreBreaks others) :
      Lines (.ofBreaks others) (line ++ b :: others)
  | more {line : List Char} (isLine : IsLine line) {b : Char} (breaks : isBreak b = true)
      {others : List Char} (empty : AreBreaks others) {chomping : Chomping} {rest : List Char}
      (lines : Lines chomping rest) : Lines chomping (line ++ b :: (others ++ rest))

theorem IsLine.cons {c : Char} (inside : isBreak c = false) {line : List Char}
    (isLine : IsLine line) : IsLine (c :: line) :=
  ⟨by simp, List.forall_mem_cons.2 ⟨inside, isLine.2⟩⟩

theorem Lines.cons {c : Char} (inside : isBreak c = false) {chomping : Chomping}
    {text : List Char} (lines : Lines chomping text) : Lines chomping (c :: text) := by
  cases lines with
  | last isLine => exact .last (isLine.cons inside)
  | ended isLine breaks empty => exact .ended (isLine.cons inside) breaks empty
  | more isLine breaks empty lines => exact .more (isLine.cons inside) breaks empty lines

/-- A text is made of breaks and lines. -/
theorem exists_lines (text : List Char) : ∃ breaks rest, text = breaks ++ rest ∧
    AreBreaks breaks ∧ (rest = [] ∨ ∃ chomping, Lines chomping rest) := by
  induction text with
  | nil => exact ⟨[], [], rfl, by simp [AreBreaks], .inl rfl⟩
  | cons c text ih =>
    obtain ⟨breaks, rest, rfl, empty, shape⟩ := ih
    cases cBreaks : isBreak c with
    | true => exact ⟨c :: breaks, rest, rfl, List.forall_mem_cons.2 ⟨cBreaks, empty⟩, shape⟩
    | false =>
      refine ⟨[], c :: (breaks ++ rest), rfl, by simp [AreBreaks], .inr ?_⟩
      have alone : IsLine [c] := ⟨by simp, by simpa using cBreaks⟩
      cases breaks with
      | nil =>
        rcases shape with rfl | ⟨chomping, lines⟩
        · exact ⟨.strip, .last alone⟩
        · exact ⟨chomping, lines.cons cBreaks⟩
      | cons b others =>
        obtain ⟨bBreaks, empty⟩ := List.forall_mem_cons.1 empty
        rcases shape with rfl | ⟨chomping, lines⟩
        · rw [List.append_nil]
          exact ⟨.ofBreaks others, .ended alone bBreaks empty⟩
        · exact ⟨chomping, .more alone bBreaks empty lines⟩

theorem blockBody_line {line : List Char} (inside : ∀ c ∈ line, isBreak c = false) (column : Nat)
    (rest : List Char) :
    blockBody column false (line ++ rest) = line ++ blockBody column false rest := by
  induction line with
  | nil => rfl
  | cons c line ih =>
    obtain ⟨cInside, inside⟩ := List.forall_mem_cons.1 inside
    simp [blockBody, cInside, ih inside]

theorem blockBody_breaks {breaks : List Char} (empty : AreBreaks breaks) (column : Nat)
    (rest : List Char) :
    blockBody column true (breaks ++ rest) = breaks ++ blockBody column true rest := by
  induction breaks with
  | nil => rfl
  | cons c breaks ih =>
    obtain ⟨cBreaks, empty⟩ := List.forall_mem_cons.1 empty
    simp [blockBody, cBreaks, ih empty]

theorem length_le_blockBody (column : Nat) (broken : Bool) (text : List Char) :
    text.length ≤ (blockBody column broken text).length := by
  induction text generalizing broken with
  | nil => simp
  | cons c rest ih =>
    rw [blockBody]
    split
    · simpa using ih true
    · have longer := ih false
      simp only [List.length_append, List.length_cons]
      omega

/-- Lines begin with no break. -/
theorem Lines.exists_cons {chomping : Chomping} {text : List Char} (lines : Lines chomping text) :
    ∃ c rest, text = c :: rest ∧ isBreak c = false := by
  have front {line : List Char} (isLine : IsLine line) (rest : List Char) :
      ∃ c others, line ++ rest = c :: others ∧ isBreak c = false := by
    obtain ⟨c, others, rfl⟩ := List.exists_cons_of_ne_nil isLine.1
    exact ⟨c, others ++ rest, rfl, isLine.2 c List.mem_cons_self⟩
  cases lines with
  | last isLine => simpa using front isLine []
  | ended isLine breaks empty => exact front isLine _
  | more isLine breaks empty lines => exact front isLine _

/-- Lines are indented. -/
theorem Lines.blockBody {chomping : Chomping} {text : List Char} (lines : Lines chomping text)
    (column : Nat) : blockBody column true text = spaces column ++ blockBody column false text := by
  obtain ⟨c, rest, rfl, inside⟩ := lines.exists_cons
  simp [Yaml.blockBody, inside]

theorem blockBody_whole {line : List Char} (inside : ∀ c ∈ line, isBreak c = false)
    (column : Nat) : Yaml.blockBody column false line = line := by
  have written := blockBody_line inside column []
  rwa [List.append_nil, Yaml.blockBody, List.append_nil] at written

theorem blockBody_ended {line : List Char} (inside : ∀ c ∈ line, isBreak c = false) {b : Char}
    (breaks : isBreak b = true) {others : List Char} (empty : AreBreaks others) (column : Nat) :
    Yaml.blockBody column false (line ++ b :: others) = line ++ b :: others := by
  have rest := blockBody_breaks empty column []
  rw [List.append_nil, Yaml.blockBody, List.append_nil] at rest
  rw [blockBody_line inside, Yaml.blockBody, if_pos breaks, rest]

theorem blockBody_more {line : List Char} (inside : ∀ c ∈ line, isBreak c = false) {b : Char}
    (breaks : isBreak b = true) {others : List Char} (empty : AreBreaks others)
    {chomping : Chomping} {rest : List Char} (lines : Lines chomping rest) (column : Nat) :
    Yaml.blockBody column false (line ++ b :: (others ++ rest)) =
      line ++ b :: (others ++ (spaces column ++ Yaml.blockBody column false rest)) := by
  rw [blockBody_line inside, Yaml.blockBody, if_pos breaks, blockBody_breaks empty,
    lines.blockBody]

theorem margin_breaks {breaks : List Char} (shown : ∀ c ∈ breaks, isPrintable c = true)
    (empty : AreBreaks breaks) (limit : Option Nat) (rest : List Char) (fuel widest : Nat) :
    margin limit (breaks.length + fuel) 0 widest (breaks ++ rest) =
      (margin limit fuel 0 widest rest).map fun (found, rest) =>
        ({ found with breaks := breaks ++ found.breaks }, rest) := by
  induction breaks with
  | nil => 
    rw [List.length_nil, Nat.zero_add, List.nil_append]
    cases margin limit fuel 0 widest rest <;> rfl
  | cons c breaks ih =>
    obtain ⟨cShown, shown⟩ := List.forall_mem_cons.1 shown
    obtain ⟨cBreaks, empty⟩ := List.forall_mem_cons.1 empty
    rw [List.length_cons, Nat.add_right_comm, List.cons_append, margin,
      lineBreak_cons_of_isBreak cShown cBreaks]
    simp only [ih shown empty]
    cases margin limit fuel 0 widest rest <;> rfl

theorem margin_spaces {limit : Option Nat} {count column : Nat}
    (inside : limit.all (column + count ≤ ·) = true) (rest : List Char) (fuel : Nat) :
    margin limit (count + fuel) column column (spaces count ++ rest) =
      margin limit fuel (column + count) (column + count) rest := by
  induction count generalizing column with
  | zero => simp
  | succ count ih =>
    have short : limit.all (column < ·) = true ∧ limit.all (column + 1 + count ≤ ·) = true := by
      cases limit with
      | none => exact ⟨rfl, rfl⟩
      | some bound =>
        simp only [Option.all_some, decide_eq_true_eq] at inside ⊢
        omega
    rw [Nat.add_right_comm, spaces_succ, List.cons_append, margin,
      lineBreak_cons_of_noBreak not_isBreak_space, Nat.add_comm count 1, ← Nat.add_assoc,
      ← ih short.2]
    simp [short.1]

/-- A margin ends at the end of the text, and before a character that does not belong to it. -/
def Stops (limit : Option Nat) (column : Nat) (rest : List Char) : Prop :=
  ∀ c ∈ rest.head?, isBreak c = false ∧ (limit.all (column < ·) = true → isBlank c = false)

theorem margin_stop {limit : Option Nat} {column : Nat} {rest : List Char}
    (stops : Stops limit column rest) (fuel widest : Nat) :
    margin limit fuel column widest rest = .ok (⟨[], column, widest⟩, rest) := by
  cases fuel with
  | zero => rfl
  | succ fuel =>
    cases rest with
    | nil => rfl
    | cons c rest =>
      obtain ⟨noBreak, outside⟩ := stops c rfl
      rw [margin, lineBreak_cons_of_noBreak noBreak]
      cases inside : limit.all (column < ·) with
      | false => rfl
      | true =>
        have noBlank := outside inside
        simp only [isBlank, Bool.or_eq_false_iff, beq_eq_false_iff_ne] at noBlank
        simp [noBlank]

/-- Empty lines and the indentation of the next line are read. -/
theorem margin_eq {breaks : List Char} (shown : ∀ c ∈ breaks, isPrintable c = true)
    (empty : AreBreaks breaks) {limit : Option Nat} {count : Nat}
    (inside : limit.all (count ≤ ·) = true) {rest : List Char} (stops : Stops limit count rest)
    {fuel : Nat} (enough : breaks.length + count ≤ fuel) :
    margin limit fuel 0 0 (breaks ++ (spaces count ++ rest)) =
      .ok (⟨breaks, count, count⟩, rest) := by
  obtain ⟨more, rfl⟩ := Nat.exists_eq_add_of_le enough
  have margins : margin limit (count + more) 0 0 (spaces count ++ rest) =
      margin limit more (0 + count) (0 + count) rest :=
    margin_spaces (by simpa using inside) rest more
  rw [Nat.add_assoc, margin_breaks shown empty, margins, Nat.zero_add, margin_stop stops]
  simp [Except.map]

/-! ## Reading lines -/

/-- The break behind the last line, unless the text ends with breaks. -/
def ending : Chomping → List Char
  | .strip => ['\n']
  | _ => []

theorem lines_line {line : List Char} (isLine : IsLine line) {b : Char}
    (shown : isPrintable b = true) (breaks : isBreak b = true) {column : Nat} {rest : List Char}
    {next : Margin} {behind : List Char}
    (between : margin (some column) (rest.length + 1) 0 0 rest = .ok (next, behind))
    (chomping : Chomping) (fuel : Nat) (blankBefore : Bool) (first before : List Char)
    (widest : Nat) :
    lines false chomping column (fuel + 1) blankBefore first ⟨before, column, widest⟩
      (line ++ b :: rest) =
        (lines false chomping column fuel (line.head?.any isBlank) [b] next behind).map
          fun (tail, following) => (first ++ before ++ line ++ tail, following) := by
  have inside : ∀ c ∈ line, (!isBreak c) = true := by simpa using isLine.2
  have front : (line ++ b :: rest).takeWhile (!isBreak ·) = line := by
    rw [List.takeWhile_append_of_pos inside]
    simp [breaks]
  have back : (line ++ b :: rest).dropWhile (!isBreak ·) = b :: rest := by
    rw [List.dropWhile_append_of_pos inside]
    simp [breaks]
  rw [lines, if_neg (by simp [isLine.1])]
  simp only [front, back, lineBreak_cons_of_isBreak shown breaks, between, joint,
    Bool.false_and, Bool.false_eq_true, ↓reduceIte]
  rfl

theorem lines_outside {chomping : Chomping} {column : Nat} {space : Margin}
    (outside : space.column ≠ column) (fuel : Nat) (blankBefore : Bool) (first text : List Char) :
    lines false chomping column fuel blankBefore first space text =
      .ok (chomping.tail first space.breaks, text) := by
  cases fuel with
  | zero => rfl
  | succ fuel => simp [lines, outside]

theorem Chomping.tail_ofBreaks (b : Char) (others : List Char) :
    (Chomping.ofBreaks others).tail [b] others = b :: others := by
  cases others <;> rfl

theorem stops_of_beginsToken {next : List Char} (begins : BeginsToken next)
    (limit : Option Nat) (column : Nat) : Stops limit column next := by
  intro c member
  cases next with
  | nil => simp at member
  | cons d rest =>
    obtain rfl : d = c := by simpa using member
    exact ⟨begins.2.1, fun _ => begins.1⟩

/-- The last line ends where the indentation does. -/
theorem lines_final {line : List Char} (isLine : IsLine line) {b : Char}
    (bShown : isPrintable b = true) (isBreak : isBreak b = true) {others : List Char}
    (shown : ∀ c ∈ others, isPrintable c = true) (empty : AreBreaks others) {column count : Nat}
    (outside : count < column) {next : List Char} (begins : BeginsToken next) (fuel : Nat)
    (chomping : Chomping) (blankBefore : Bool) (first breaks : List Char) (widest : Nat) :
    lines false chomping column (fuel + 1) blankBefore first ⟨breaks, column, widest⟩
      (line ++ b :: (others ++ (spaces count ++ next))) =
        .ok (first ++ breaks ++ line ++ chomping.tail [b] others, next) := by
  have limit : (some column).all (count ≤ ·) = true := by simpa using Nat.le_of_lt outside
  have between : margin (some column) ((others ++ (spaces count ++ next)).length + 1) 0 0
      (others ++ (spaces count ++ next)) = .ok (⟨others, count, count⟩, next) :=
    margin_eq shown empty limit (stops_of_beginsToken begins _ _) (by simp; omega)
  rw [lines_line isLine bShown isBreak between,
    lines_outside (by simpa using Nat.ne_of_lt outside)]
  rfl

theorem lines_blockBody {chomping : Chomping} {text : List Char} (shape : Lines chomping text)
    (shown : ∀ c ∈ text, isPrintable c = true) {column count : Nat} (outside : count < column)
    {next : List Char} (begins : BeginsToken next) {fuel : Nat} (enough : text.length ≤ fuel)
    (blankBefore : Bool) (first breaks : List Char) (widest : Nat) :
    lines false chomping column fuel blankBefore first ⟨breaks, column, widest⟩
      (blockBody column false text ++ (ending chomping ++ (spaces count ++ next))) =
        .ok (first ++ breaks ++ text, next) := by
  induction shape generalizing fuel blankBefore first breaks widest with
  | @last line isLine =>
    have one : 1 ≤ line.length := List.length_pos_iff.2 isLine.1
    obtain ⟨before, rfl⟩ := Nat.exists_eq_add_of_le' (Nat.le_trans one enough)
    have final := @lines_final line isLine '\n' (by decide) (by decide) [] (by simp)
      (by simp [AreBreaks]) column count outside next begins before .strip blankBefore first breaks
      widest
    simpa [blockBody_whole isLine.2, ending, Chomping.tail] using final
  | @ended line isLine b isBreak others empty =>
    have one : 1 ≤ line.length := List.length_pos_iff.2 isLine.1
    simp only [List.length_append, List.length_cons] at enough
    obtain ⟨before, rfl⟩ := Nat.exists_eq_add_of_le' (by omega : 1 ≤ fuel)
    simp only [List.mem_append, List.mem_cons] at shown
    have noEnding : ending (.ofBreaks others) = [] := by cases others <;> rfl
    have final := lines_final isLine (shown b (.inr (.inl rfl))) isBreak
      (fun c member => shown c (.inr (.inr member))) empty outside begins before
      (.ofBreaks others) blankBefore first breaks widest
    simpa [blockBody_ended isLine.2 isBreak empty, noEnding, Chomping.tail_ofBreaks] using final
  | @more line isLine b isBreak others empty chomping rest shape ih =>
    have one : 1 ≤ line.length := List.length_pos_iff.2 isLine.1
    simp only [List.length_append, List.length_cons] at enough
    obtain ⟨before, rfl⟩ := Nat.exists_eq_add_of_le' (by omega : 1 ≤ fuel)
    simp only [List.mem_append, List.mem_cons] at shown
    generalize behindLine : blockBody column false rest ++
      (ending chomping ++ (spaces count ++ next)) = behind at ih
    have stops : Stops (some column) column behind := by
      obtain ⟨c, others, rfl, inside⟩ := shape.exists_cons
      simp [← behindLine, blockBody, inside, Stops]
    have between : margin (some column) ((others ++ (spaces column ++ behind)).length + 1) 0 0
        (others ++ (spaces column ++ behind)) = .ok (⟨others, column, column⟩, behind) :=
      margin_eq (fun c member => shown c (.inr (.inr (.inl member)))) empty (by simp) stops
        (by simp; omega)
    have later := @ih (fun c member => shown c (.inr (.inr (.inr member)))) before (by omega)
      (line.head?.any isBlank) [b] others column
    have whole : blockBody column false (line ++ b :: (others ++ rest)) ++
        (ending chomping ++ (spaces count ++ next)) =
          line ++ b :: (others ++ (spaces column ++ behind)) := by
      simp [blockBody_more isLine.2 isBreak empty shape, behindLine]
    rw [whole, lines_line isLine (shown b (.inr (.inl rfl))) isBreak between, later]
    simp [Except.map]

/-- The sign for what happens to the breaks at the end. -/
def Chomping.sign : Chomping → List Char
  | .strip => ['-']
  | .clip => []
  | .keep => ['+']

/-- The digit for the indentation, where a text does not show it. -/
def digit (text : List Char) : List Char :=
  match text with
  | c :: _ => if c = ' ' || isBreak c then ['2'] else []
  | [] => []

/-- The sign for a text from its last character on. -/
def signBefore : List Char → List Char
  | [] => ['-']
  | [c] => if isBreak c then ['+'] else ['-']
  | c :: before :: _ => if isBreak c then (if isBreak before then ['+'] else []) else ['-']

theorem blockHeader_eq (text : List Char) :
    blockHeader text = '|' :: (digit text ++ signBefore text.reverse) :=
  rfl

theorem blockHeader_concat {c : Char} (inside : isBreak c = false) (front : List Char) :
    blockHeader (front ++ [c]) = '|' :: (digit (front ++ [c]) ++ Chomping.sign .strip) := by
  rw [blockHeader_eq, List.reverse_append, List.reverse_singleton, List.singleton_append]
  cases front.reverse <;> simp [signBefore, inside, Chomping.sign]

theorem blockHeader_break {c b : Char} (breaks : isBreak b = true) (front : List Char) :
    blockHeader (front ++ [c, b]) = '|' :: (digit (front ++ [c, b]) ++
      (if isBreak c then Chomping.keep else Chomping.clip).sign) := by
  rw [blockHeader_eq, List.reverse_append]
  cases cBreaks : isBreak c <;> simp [signBefore, breaks, cBreaks, Chomping.sign]

theorem exists_concat {line : List Char} (nonempty : line ≠ []) : ∃ start c, line = start ++ [c] :=
  ⟨line.dropLast, line.getLast nonempty, (List.dropLast_concat_getLast nonempty).symm⟩

theorem Lines.blockHeader {chomping : Chomping} {text : List Char}
    (lines : Lines chomping text) (front : List Char) :
    blockHeader (front ++ text) = '|' :: (digit (front ++ text) ++ chomping.sign) := by
  induction lines generalizing front with
  | last isLine =>
    obtain ⟨start, c, rfl⟩ := exists_concat isLine.1
    rw [← List.append_assoc]
    exact blockHeader_concat (isLine.2 c (by simp)) _
  | @ended line isLine b breaks others empty =>
    by_cases alone : others = []
    · obtain ⟨start, c, rfl⟩ := exists_concat isLine.1
      have header := @blockHeader_break c b breaks (front ++ start)
      simpa [alone, isLine.2 c (by simp), Chomping.ofBreaks] using header
    · obtain ⟨init, last, rfl⟩ := exists_concat alone
      have lastBreaks : isBreak last = true := empty last (by simp)
      by_cases two : init = []
      · have header := @blockHeader_break b last lastBreaks (front ++ line)
        simpa [two, breaks, Chomping.ofBreaks] using header
      · obtain ⟨before, c, rfl⟩ := exists_concat two
        have header := @blockHeader_break c last lastBreaks (front ++ line ++ b :: before)
        simpa [empty c (by simp), Chomping.ofBreaks] using header
  | @more line isLine b breaks others empty chomping rest lines ih =>
    have header := ih (front ++ (line ++ b :: others))
    simpa using header

/-- The header of a text without lines. -/
theorem blockHeader_breaks {text : List Char} (nonempty : text ≠ []) (empty : AreBreaks text) :
    blockHeader text = '|' :: (digit text ++ Chomping.sign .keep) := by
  obtain ⟨init, last, rfl⟩ := exists_concat nonempty
  have lastBreaks : isBreak last = true := empty last (by simp)
  by_cases alone : init = []
  · subst alone
    simp [blockHeader_eq, signBefore, lastBreaks, Chomping.sign]
  · obtain ⟨before, c, rfl⟩ := exists_concat alone
    have header := @blockHeader_break c last lastBreaks before
    simpa [empty c (by simp)] using header

/-- A header is read up to the end of its line. -/
theorem header_eq (text : List Char) (chomping : Chomping) (rest : List Char) :
    header (digit text ++ (chomping.sign ++ '\n' :: rest)) =
      .ok (⟨chomping, if digit text = [] then none else some 2⟩, '\n' :: rest) := by
  have digits : digit text = [] ∨ digit text = ['2'] := by
    cases text with
    | nil => exact .inl rfl
    | cons c rest =>
      simp only [digit]
      split
      · exact .inr rfl
      · exact .inl rfl
  rcases digits with given | given <;> rw [given] <;> cases chomping <;> rfl

theorem endOfLine_eq (rest : List Char) : endOfLine ('\n' :: rest) = .ok ((), rest) := by
  have feed : lineBreak ('\n' :: rest) = some ('\n', rest) :=
    lineBreak_cons_of_isBreak (by decide) (by decide) rest
  simp [endOfLine, isBlank, feed]

/-- A block needs a break at its end exactly if its header strips the breaks there. -/
theorem Lines.closing {chomping : Chomping} {text : List Char} (shape : Lines chomping text)
    (column : Nat) (front : List Char) :
    closing (front ++ Yaml.blockBody column false text) = ending chomping := by
  induction shape generalizing front with
  | last isLine =>
    obtain ⟨start, c, rfl⟩ := exists_concat isLine.1
    rw [blockBody_whole isLine.2, ← List.append_assoc, closing_concat, isLine.2 c (by simp)]
    rfl
  | @ended line isLine b breaks others empty =>
    have noEnding : ending (.ofBreaks others) = [] := by cases others <;> rfl
    have allBreaks : AreBreaks (b :: others) := List.forall_mem_cons.2 ⟨breaks, empty⟩
    obtain ⟨start, c, same⟩ := exists_concat (List.cons_ne_nil b others)
    have cBreaks : isBreak c = true := allBreaks c (by simp [same])
    rw [blockBody_ended isLine.2 breaks empty, noEnding, same, ← List.append_assoc,
      ← List.append_assoc, closing_concat, if_pos cBreaks]
  | @more line isLine b breaks others empty chomping rest shape ih =>
    rw [blockBody_more isLine.2 breaks empty shape]
    have closed := ih (front ++ (line ++ b :: (others ++ spaces column)))
    simpa using closed

/-- Behind the header the margin is read, and then the lines. -/
theorem read_header (text : List Char) (chomping : Chomping) {outer : Nat} {rest : List Char}
    {given : Option Nat} (known : given = if digit text = [] then none else some (outer - 1 + 2))
    {space : Margin} {behind : List Char}
    (between : margin given (rest.length + 1) 0 0 rest = .ok (space, behind)) :
    read false outer (digit text ++ (chomping.sign ++ '\n' :: rest)) =
      lines false chomping (given.getD (max (max space.widest outer) 1)) (behind.length + 1) false
        [] space behind := by
  have limit : Option.map (outer - 1 + ·) (if digit text = [] then none else some 2) = given := by
    rw [known]
    split <;> rfl
  simp only [read, header_eq, endOfLine_eq, bind, Except.bind, limit, between]

/-- A text without lines reads back. -/
theorem read_breaks {text : List Char} (nonempty : text ≠ []) (empty : AreBreaks text)
    (shown : ∀ c ∈ text, isPrintable c = true) {outer column count : Nat}
    (indented : column = outer - 1 + 2) (outside : count < column) {next : List Char}
    (begins : BeginsToken next) :
    read false outer (digit text ++ (Chomping.keep.sign ++ '\n' :: (text ++
      (spaces count ++ next)))) = .ok (text, next) := by
  have digits : digit text ≠ [] := by
    obtain ⟨c, rest, rfl⟩ := List.exists_cons_of_ne_nil nonempty
    simp [digit, empty c List.mem_cons_self]
  have between : margin (Option.some column) ((text ++ (spaces count ++ next)).length + 1) 0 0
      (text ++ (spaces count ++ next)) = .ok (⟨text, count, count⟩, next) :=
    margin_eq shown empty (by simpa using Nat.le_of_lt outside)
      (stops_of_beginsToken begins _ _) (by simp; omega)
  rw [read_header text .keep (by rw [if_neg digits, indented]) between, Option.getD_some,
    lines_outside (by simpa using Nat.ne_of_lt outside)]
  rfl

/-- A text with lines reads back. -/
theorem read_lines {chomping : Chomping} {breaks rest : List Char}
    (shape : Lines chomping rest) (empty : AreBreaks breaks)
    (shown : ∀ c ∈ breaks ++ rest, isPrintable c = true) {outer column count : Nat}
    (indented : column = outer - 1 + 2) (outside : count < column) {next : List Char}
    (begins : BeginsToken next) :
    read false outer (digit (breaks ++ rest) ++ (chomping.sign ++ '\n' ::
      (blockBody column true (breaks ++ rest) ++ (ending chomping ++ (spaces count ++ next))))) =
        .ok (breaks ++ rest, next) := by
  obtain ⟨breaksShown, restShown⟩ := List.forall_mem_append.1 shown
  rw [blockBody_breaks empty, shape.blockBody, List.append_assoc, List.append_assoc]
  generalize behindLine : blockBody column false rest ++
    (ending chomping ++ (spaces count ++ next)) = behind
  have length : rest.length ≤ behind.length := by
    have longer := length_le_blockBody column false rest
    simp only [← behindLine, List.length_append]
    omega
  have whole := lines_blockBody shape restShown outside begins (Nat.le_succ_of_le length) false []
    breaks
  rw [behindLine, List.nil_append] at whole
  by_cases shows : digit (breaks ++ rest) = []
  · -- The first line shows the indentation: it begins with a character that is no blank.
    obtain ⟨c, others, rfl, inside⟩ := shape.exists_cons
    obtain rfl : breaks = [] := by
      cases breaks with
      | nil => rfl
      | cons b breaks => simp [digit, empty b List.mem_cons_self] at shows
    have word : c ≠ ' ' := by
      rintro rfl
      simp [digit] at shows
    have noBlank := isBlank_eq_false (restShown c List.mem_cons_self) word
    have stops : Stops none column behind := by
      simp [← behindLine, blockBody, inside, noBlank, Stops]
    have between : margin none (([] ++ (spaces column ++ behind)).length + 1) 0 0
        ([] ++ (spaces column ++ behind)) = .ok (⟨[], column, column⟩, behind) :=
      margin_eq breaksShown empty rfl stops (by simp; omega)
    have shown : max (max column outer) 1 = column := by omega
    rw [read_header _ chomping (by rw [if_pos shows]) between, Option.getD_none, shown, whole]
  · have stops : Stops (some column) column behind := by
      obtain ⟨c, others, rfl, inside⟩ := shape.exists_cons
      simp [← behindLine, blockBody, inside, Stops]
    have between : margin (some column) ((breaks ++ (spaces column ++ behind)).length + 1) 0 0
        (breaks ++ (spaces column ++ behind)) = .ok (⟨breaks, column, column⟩, behind) :=
      margin_eq breaksShown empty (by simp) stops (by simp; omega)
    rw [read_header _ chomping (by rw [if_neg shows, indented]) between, Option.getD_some, whole]

/-- A literal block reads back. -/
theorem read_literal {text : List Char} (allowed : Style.allowsBlock text = true)
    {outer column count : Nat} (indented : column = outer - 1 + 2) (outside : count < column)
    {next : List Char} (begins : BeginsToken next) :
    read false outer ((blockHeader text).drop 1 ++ '\n' :: (blockBody column true text ++
      (closing (blockHeader text ++ '\n' :: blockBody column true text) ++
        (spaces count ++ next)))) = .ok (text, next) := by
  simp only [Style.allowsBlock, Bool.and_eq_true, List.all_eq_true, Bool.not_eq_true',
    List.isEmpty_eq_false_iff] at allowed
  obtain ⟨⟨⟨nonempty, shown⟩, -⟩, -⟩ := allowed
  obtain ⟨breaks, rest, rfl, empty, rfl | ⟨chomping, shape⟩⟩ := exists_lines text
  · rw [List.append_nil] at nonempty shown ⊢
    obtain ⟨start, c, same⟩ := exists_concat nonempty
    have cBreaks : isBreak c = true := empty c (by simp [same])
    have body : blockBody column true breaks = breaks := by
      simpa [blockBody] using blockBody_breaks empty column []
    have closed : closing (blockHeader breaks ++ '\n' :: breaks) = [] := by
      have last := closing_concat (blockHeader breaks ++ '\n' :: start) c
      rw [if_pos cBreaks] at last
      rw [← last, same]
      simp
    have read := read_breaks nonempty empty shown indented outside begins
    rw [body, closed, blockHeader_breaks nonempty empty, List.drop_one, List.tail_cons]
    simpa using read
  · have closed : closing (blockHeader (breaks ++ rest) ++
        '\n' :: blockBody column true (breaks ++ rest)) = ending chomping := by
      have shapeClosed := shape.closing column
        (blockHeader (breaks ++ rest) ++ '\n' :: (breaks ++ spaces column))
      rw [blockBody_breaks empty, shape.blockBody]
      simpa using shapeClosed
    have read := read_lines shape empty shown indented outside begins
    rw [closed, shape.blockHeader breaks, List.drop_one, List.tail_cons]
    simpa using read

end Block
end Yaml
end SchemaScaffold
