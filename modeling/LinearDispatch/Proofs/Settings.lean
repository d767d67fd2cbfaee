-- SUMMARY: Settings files of plain lines: what they name depends on one line only, and a key that is given twice names nothing.
import LinearDispatch.Proofs.Text
import LinearDispatch.Settings

/-!
# Plain settings files

A plain file has a key, a delimiter and a value on each line that is neither
blank nor a comment, and the keys start their lines. Reading it, the section
and the indentation never change, so that no line continues the one before.
Blank lines do go on with the value before them, but as line feeds at its end,
which are trimmed. So each line that sets an option is one entry, and no other
line has a part in its value.
-/
namespace LinearDispatch.Settings

open Text

/-! ## Plain lines -/

/-- A line that sets an option: the key starts in the first column, not as a section or a comment
does, and ends before the first delimiter. What is behind that may be anything. -/
structure Entry where
  key : List Char
  delimiter : Char
  value : List Char
  starts : ∃ c rest, key = c :: rest ∧ isBlank c = false ∧ c ∉ ['[', '#', ';']
  plain : ∀ c ∈ key, c ≠ '=' ∧ c ≠ ':'
  delimits : delimiter = '=' ∨ delimiter = ':'

namespace Entry

/-- The line of the entry. -/
def text (e : Entry) : List Char :=
  e.key ++ e.delimiter :: e.value

/-- The option that the entry sets: its key without the blanks around it, in lower case. -/
def name (e : Entry) : String :=
  lower (strip (String.ofList e.key))

/-- What the option is set to: all behind the delimiter, without the blanks around it. -/
def setting (e : Entry) : String :=
  strip (String.ofList e.value)

end Entry

/-- The lines of a plain file. -/
inductive Line where
  | blank (cs : List Char) (blank : ∀ c ∈ cs, isBlank c = true)
  | comment (blanks : List Char) (mark : Char) (rest : List Char)
    (blank : ∀ c ∈ blanks, isBlank c = true) (marks : mark = '#' ∨ mark = ';')
  | entry (e : Entry)

namespace Line

def text : Line → List Char
  | blank cs _                 => cs
  | comment blanks mark rest .. => blanks ++ mark :: rest
  | entry e                    => e.text

def entry? : Line → Option Entry
  | entry e => some e
  | _       => none

/-- The entries among some lines. -/
def entries (ls : List Line) : List Entry :=
  ls.filterMap entry?

end Line

/-! ## Entries as lines -/

namespace Entry

variable (e : Entry)

theorem isBlank_delimiter : isBlank e.delimiter = false := by
  rcases e.delimits with h | h <;> rw [h] <;> decide

theorem trimEnd_key : ∃ c rest, trimEnd e.key = c :: rest ∧ trim e.key = trimEnd e.key := by
  obtain ⟨c, rest, hkey, hc, -⟩ := e.starts
  have hend : trimEnd (c :: rest) = c :: trimEnd rest := trimEnd_append_cons [] rest hc
  have htrim : trim (c :: rest) = c :: trimEnd rest :=
    trim_append_cons (List.forall_mem_nil _) hc rest
  exact ⟨c, trimEnd rest, by rw [hkey, hend], by rw [hkey, htrim, hend]⟩

theorem name_eq : e.name = lower (String.ofList (trimEnd e.key)) := by
  obtain ⟨c, rest, -, htrim⟩ := e.trimEnd_key
  rw [name, strip, String.toList_ofList, htrim]

theorem name_ne : e.name ≠ "" := by
  obtain ⟨c, rest, hkey, -⟩ := e.trimEnd_key
  obtain ⟨ds, hds, hne, -⟩ := exists_lowerAfter_cons false c rest
  rw [name_eq, lower, String.toList_ofList, hkey, hds]
  intro hempty
  have hnil := congrArg String.toList hempty
  rw [String.toList_ofList] at hnil
  exact hne (List.append_eq_nil_iff.1 hnil).1

/-- All of the line is left but the blanks at its end. -/
theorem trim_text : trim e.text = e.key ++ e.delimiter :: trimEnd e.value := by
  obtain ⟨c, rest, hkey, hc, -⟩ := e.starts
  have htrim : trim (c :: (rest ++ e.delimiter :: e.value)) =
      c :: trimEnd (rest ++ e.delimiter :: e.value) :=
    trim_append_cons (List.forall_mem_nil _) hc _
  rw [text, hkey, List.cons_append, htrim, trimEnd_append_cons _ _ e.isBlank_delimiter,
    List.cons_append]

theorem exists_trim_text : ∃ c rest, trim e.text = c :: rest ∧ c ≠ '[' ∧ c ≠ '#' ∧ c ≠ ';' := by
  obtain ⟨c, rest, hkey, -, hc⟩ := e.starts
  exact ⟨c, rest ++ e.delimiter :: trimEnd e.value, by rw [trim_text, hkey, List.cons_append],
    by simpa using hc⟩

theorem indent_text : indent e.text = 0 := by
  obtain ⟨c, rest, hkey, hc, -⟩ := e.starts
  simp [indent, text, hkey, hc]

/-- The line is split where it was put together. -/
theorem option?_text : option? (trim e.text) = some (e.name, trim e.value) := by
  have hkey : ∀ c ∈ e.key, (c ≠ '=' && c ≠ ':') = true := by
    intro c hc
    simpa using e.plain c hc
  have hdelimiter : (e.delimiter ≠ '=' && e.delimiter ≠ ':') = false := by
    rcases e.delimits with h | h <;> simp [h]
  rw [option?, trim_text, List.dropWhile_append_of_pos hkey, List.takeWhile_append_of_pos hkey,
    List.dropWhile_cons, List.takeWhile_cons, hdelimiter]
  simp [name_eq, trim_trimEnd]

end Entry

/-! ## One line -/

/-- What has been read of a plain file so far: the first section only, whose options are the
entries, and nothing behind a value but blank lines. -/
structure Reader.Holds (r : Reader) (es : List Entry) : Prop where
  current : r.current = firstSection
  level : r.level = 0
  unparsable : r.unparsable = []
  noDefault : r.options defaultSection = .empty
  option : ∀ name, r.option = some name → name ∈ es.map Entry.name
  distinct : (es.map Entry.name).Nodup
  known : ∀ name, (r.options firstSection).contains name = true ↔ name ∈ es.map Entry.name
  values : ∀ e ∈ es, ∃ k, (r.options firstSection).get? e.name =
    some (List.replicate k [] ++ [trim e.value])

theorem holds_start : Reader.start.Holds [] where
  current := rfl
  level := rfl
  unparsable := rfl
  noDefault := rfl
  option := nofun
  distinct := List.nodup_nil
  known name := by
    have hoptions : Reader.start.options firstSection = .empty := by decide
    rw [hoptions]
    simp [Table.contains]
  values := nofun

namespace Reader

variable {r : Reader} {es : List Entry} {n : Nat}

/-- Writing a value of the first section leaves everything else. -/
theorem Holds.options_of_insert (h : r.Holds es) {r' : Reader} {name : String}
    {value : List (List Char)} (hsections : r'.sections =
      r.sections.insert r.current ((r.options r.current).insert name value)) :
    r'.options defaultSection = .empty ∧ ∀ key, (r'.options firstSection).get? key =
      if key = name then some value else (r.options firstSection).get? key := by
  have hother : defaultSection ≠ firstSection := by decide
  rw [h.current] at hsections
  constructor
  · rw [options, hsections, Table.get?_insert, if_neg hother]
    exact h.noDefault
  · intro key
    rw [options, hsections, Table.get?_insert, if_pos rfl, Option.getD_some, Table.get?_insert]

/-- A blank line goes on with the value of an entry. -/
theorem Holds.append (h : r.Holds es) {name : String} (hname : name ∈ es.map Entry.name) :
    (r.append name []).Holds es := by
  have hsections : (r.append name []).sections = r.sections.insert r.current
      ((r.options r.current).insert name ([] :: ((r.options r.current).get? name).getD [])) := rfl
  obtain ⟨hdefault, hget⟩ := h.options_of_insert hsections
  refine ⟨h.current, h.level, h.unparsable, hdefault, h.option, h.distinct, fun key => ?_,
    fun e he => ?_⟩
  · rw [Table.contains, hget, ← h.known]
    split
    · next heq => simp [heq, (h.known name).2 hname]
    · rfl
  · obtain ⟨k, hk⟩ := h.values e he
    rw [hget]
    split
    · next heq =>
      rw [h.current, ← heq, hk]
      exact ⟨k + 1, rfl⟩
    · exact ⟨k, hk⟩

theorem Holds.readLine_blank (h : r.Holds es) {cs : List Char}
    (hcs : ∀ c ∈ cs, isBlank c = true) : ∃ r', r.readLine n cs = .ok r' ∧ r'.Holds es := by
  simp only [readLine, trim_of_blank hcs, isComment, List.isEmpty_nil]
  cases hcontinued : r.continued? with
  | none => exact ⟨r, rfl, h⟩
  | some name =>
    have hoption : r.option = some name := (Option.filter_eq_some_iff.1 hcontinued).1
    exact ⟨_, rfl, h.append (h.option name hoption)⟩

theorem readLine_comment {blanks rest : List Char} {mark : Char}
    (hblanks : ∀ c ∈ blanks, isBlank c = true) (hmark : mark = '#' ∨ mark = ';') :
    r.readLine n (blanks ++ mark :: rest) = .ok r := by
  have hnot : isBlank mark = false := by
    rcases hmark with rfl | rfl <;> decide
  have hcomment : isComment (mark :: trimEnd rest) = true := by
    simpa [isComment] using hmark
  simp only [readLine, trim_append_cons hblanks hnot, hcomment, if_true]

/-- An entry neither is a comment nor continues a value nor opens a section. -/
theorem readLine_entry (h : r.level = 0) (e : Entry) :
    r.readLine n e.text = r.setOption n (trim e.text) e.name (trim e.value) := by
  obtain ⟨c, rest, hbody, hbracket, hcomment⟩ := e.exists_trim_text
  have hheader : header? (trim e.text) = none := by
    rw [hbody, header?]
    simpa using hbracket
  have hnoComment : isComment (trim e.text) = false := by
    rw [hbody, isComment]
    simpa using hcomment
  have hnotEmpty : (trim e.text).isEmpty = false := by rw [hbody]; rfl
  have hlevel : ({ r with level := 0 } : Reader) = r := by rw [← h]
  have hentry : ({ r with level := indent e.text } : Reader).readEntry n (trim e.text) =
      r.setOption n (trim e.text) e.name (trim e.value) := by
    rw [e.indent_text, hlevel, readEntry, hheader, e.option?_text]
  simp only [readLine, hnoComment, hnotEmpty, Bool.false_eq_true, if_false]
  rw [hentry, h, e.indent_text]
  cases r.continued? <;> rfl

theorem Holds.setOption_of_mem (h : r.Holds es) {e : Entry} (he : e.name ∈ es.map Entry.name)
    (line : List Char) : r.setOption n line e.name (trim e.value) =
      .error (.duplicateOption n e.name firstSection) := by
  rw [setOption, h.current, if_pos ((h.known _).2 he)]

theorem Holds.setOption_of_notMem (h : r.Holds es) {e : Entry} (he : e.name ∉ es.map Entry.name)
    (line : List Char) : ∃ r', r.setOption n line e.name (trim e.value) = .ok r' ∧
      r'.Holds (es ++ [e]) := by
  have hunknown : ¬ (r.options r.current).contains e.name = true := by
    rw [h.current, h.known]
    exact he
  let r' : Reader := { r with
    sections := r.sections.insert r.current ((r.options r.current).insert e.name [trim e.value])
    option := some e.name }
  have hok : r.setOption n line e.name (trim e.value) = .ok r' := by
    rw [setOption, if_neg hunknown, if_neg e.name_ne]
    dsimp only
    rw [List.append_nil]
  have hsections : r'.sections =
      r.sections.insert r.current ((r.options r.current).insert e.name [trim e.value]) := rfl
  obtain ⟨hdefault, hget⟩ := h.options_of_insert hsections
  refine ⟨r', hok, h.current, h.level, h.unparsable, hdefault, ?_, ?_, fun key => ?_,
    fun d hd => ?_⟩
  · intro name hname
    obtain rfl : e.name = name := Option.some.inj hname
    simp
  · rw [List.map_append, List.nodup_append]
    refine ⟨h.distinct, by simp, fun x hx y hy heq => ?_⟩
    obtain rfl : y = e.name := List.mem_singleton.1 hy
    exact he (heq ▸ hx)
  · rw [Table.contains, hget, List.map_append, List.mem_append, ← h.known]
    split
    · next heq => simp [heq]
    · next hne => simp [hne, Table.contains]
  · rw [hget]
    rcases List.mem_append.1 hd with hold | hnew
    · have hne : d.name ≠ e.name := fun heq => he (heq ▸ List.mem_map_of_mem hold)
      rw [if_neg hne]
      exact h.values d hold
    · obtain rfl := List.mem_singleton.1 hnew
      exact ⟨0, if_pos rfl⟩

/-! ## All lines -/

/-- A line leaves the file plain, or is an entry for a name that is set already. -/
theorem Holds.readLine (h : r.Holds es) (l : Line) :
    (∃ r', r.readLine n l.text = .ok r' ∧ r'.Holds (es ++ Line.entries [l])) ∨
      ∃ e, l = .entry e ∧ e.name ∈ es.map Entry.name ∧
        r.readLine n l.text = .error (.duplicateOption n e.name firstSection) := by
  cases l with
  | blank cs hcs =>
    obtain ⟨r', hr', hholds⟩ := h.readLine_blank (n := n) hcs
    refine .inl ⟨r', hr', ?_⟩
    have hnone : Line.entries [.blank cs hcs] = [] := rfl
    rwa [hnone, List.append_nil]
  | comment blanks mark rest hblanks hmark =>
    refine .inl ⟨r, readLine_comment hblanks hmark, ?_⟩
    have hnone : Line.entries [.comment blanks mark rest hblanks hmark] = [] := rfl
    rwa [hnone, List.append_nil]
  | entry e =>
    by_cases he : e.name ∈ es.map Entry.name
    · refine .inr ⟨e, rfl, he, ?_⟩
      exact (readLine_entry h.level e).trans (h.setOption_of_mem he _)
    · obtain ⟨r', hr', hholds⟩ := h.setOption_of_notMem (n := n) he (trim e.text)
      exact .inl ⟨r', (readLine_entry h.level e).trans hr', hholds⟩

/-- Reading lines collects their entries, up to the first whose name is set already. -/
theorem Holds.readLines (h : r.Holds es) (ls : List Line) :
    (∃ r', readLines n (ls.map Line.text) r = .ok r' ∧ r'.Holds (es ++ Line.entries ls)) ∨
      ∃ k e, ls[k]? = some (.entry e) ∧
        e.name ∈ (es ++ Line.entries (ls.take k)).map Entry.name ∧
        readLines n (ls.map Line.text) r =
          .error (.duplicateOption (n + k) e.name firstSection) := by
  induction ls generalizing r es n with
  | nil => exact .inl ⟨r, rfl, by simpa [Line.entries] using h⟩
  | cons l ls ih =>
    have hsplit : ∀ ls, Line.entries (l :: ls) = Line.entries [l] ++ Line.entries ls :=
      fun ls => List.filterMap_append (l := [l])
    rw [List.map_cons, Reader.readLines.eq_def]
    dsimp only
    rcases h.readLine (n := n) l with ⟨r', hr', hholds⟩ | ⟨e, rfl, he, hfault⟩
    · rw [hr']
      dsimp only
      rcases ih (n := n + 1) hholds with ⟨r'', hr'', hholds'⟩ | ⟨k, e, hk, he, hfault⟩
      · refine .inl ⟨r'', hr'', ?_⟩
        rwa [hsplit, ← List.append_assoc]
      · refine .inr ⟨k + 1, e, hk, ?_, ?_⟩
        · rwa [List.take_succ_cons, hsplit, ← List.append_assoc]
        · rw [hfault, Nat.add_right_comm, Nat.add_assoc]
    · refine .inr ⟨0, e, rfl, by simpa [Line.entries] using he, ?_⟩
      rw [hfault]
      rfl

end Reader

/-! ## Values -/

theorem joinLines_replicate (cs : List Char) (k : Nat) :
    joinLines (cs :: List.replicate k []) = cs ++ List.replicate k '\n' := by
  induction k generalizing cs with
  | zero => simp [joinLines]
  | succ k ih =>
    rw [List.replicate_succ, joinLines, ih, List.replicate_succ, List.nil_append]
    nofun

/-- The blank lines behind a value are trimmed. -/
theorem valueOf_eq (e : Entry) (k : Nat) :
    valueOf (List.replicate k [] ++ [trim e.value]) = e.setting := by
  have hblanks : ∀ c ∈ List.replicate k '\n', isBlank c = true := by
    intro c hc
    rw [List.eq_of_mem_replicate hc]
    decide
  rw [valueOf, List.reverse_append, List.reverse_replicate, List.reverse_singleton,
    List.singleton_append, joinLines_replicate, trimEnd_append_of_blank _ hblanks, trim,
    trimEnd_trimEnd, Entry.setting, strip, String.toList_ofList, trim]

/-- A name set once is found with the setting of its entry, and one never set is not found. -/
theorem Reader.Holds.value? {r : Reader} {es : List Entry} (h : r.Holds es) :
    (∀ e ∈ es, r.value? e.name = some e.setting) ∧
      ∀ name, name ∉ es.map Entry.name → r.value? name = none := by
  constructor
  · intro e he
    obtain ⟨k, hk⟩ := h.values e he
    rw [Reader.value?, hk, Option.some_or, Option.map_some, valueOf_eq]
  · intro name hname
    have hnone : (r.options firstSection).get? name = none := by
      rw [← h.known, Table.contains, Option.not_isSome_iff_eq_none] at hname
      exact hname
    rw [Reader.value?, hnone, h.noDefault]
    rfl

/-! ## The entry of the backend -/

/-- An entry whose name is set by a line before it repeats that name. -/
theorem not_nodup_of_repeated {ls : List Line} {k : Nat} {e : Entry} (hk : ls[k]? = some (.entry e))
    (he : e.name ∈ (Line.entries (ls.take k)).map Entry.name) :
    ¬ ((Line.entries ls).map Entry.name).Nodup := by
  obtain ⟨hlt, hget⟩ := List.getElem?_eq_some_iff.1 hk
  have hsplit : ls = ls.take k ++ .entry e :: ls.drop (k + 1) := by
    rw [← hget, List.getElem_cons_drop, List.take_append_drop]
  have hentries : Line.entries ls =
      Line.entries (ls.take k) ++ e :: Line.entries (ls.drop (k + 1)) :=
    (congrArg Line.entries hsplit).trans List.filterMap_append
  rw [hentries, List.map_append, List.nodup_append]
  rintro ⟨-, -, hdisjoint⟩
  exact hdisjoint _ he _ (by simp) rfl

/-- A plain file is read to its end, with its entries kept, or refused at a repeated name. -/
theorem read_plain {text : String} {ls : List Line}
    (hlines : lines (unifyLineEnds text.toList) = ls.map Line.text) :
    (∃ r, read text = .ok r ∧ r.Holds (Line.entries ls)) ∨
      ∃ k e, ls[k]? = some (.entry e) ∧
        e.name ∈ (Line.entries (ls.take k)).map Entry.name ∧
        read text = .error (.duplicateOption (k + 2) e.name firstSection) := by
  rcases holds_start.readLines (n := 2) ls with ⟨r, hr, hholds⟩ | ⟨k, e, hk, he, hfault⟩
  · refine .inl ⟨r, ?_, hholds⟩
    rw [read, hlines, hr]
    simp [hholds.unparsable]
  · refine .inr ⟨k, e, hk, he, ?_⟩
    rw [read, hlines, hfault, Nat.add_comm]

/-- The entry of the backend in a plain file is found whatever the other lines are and wherever it
stands; a blank one names nothing, and neither does a file without such an entry. A file in which
two keys come to the same name is refused at the second of them. -/
theorem backendOf_plain {bytes : ByteArray} {text : String} {ls : List Line}
    (hutf8 : String.fromUTF8? bytes = some text)
    (hlines : lines (unifyLineEnds text.toList) = ls.map Line.text) :
    (((Line.entries ls).map Entry.name).Nodup →
      (∀ e ∈ Line.entries ls, e.name = backendOption →
        backendOf (.content bytes) = .ok (if e.setting = "" then none else some e.setting)) ∧
      ((∀ e ∈ Line.entries ls, e.name ≠ backendOption) → backendOf (.content bytes) = .ok none)) ∧
    (¬ ((Line.entries ls).map Entry.name).Nodup →
      named? (.content bytes) = none ∧
      ∃ k e, ls[k]? = some (.entry e) ∧ e.name ∈ (Line.entries (ls.take k)).map Entry.name ∧
        backendOf (.content bytes) = .error (.duplicateOption (k + 2) e.name firstSection)) := by
  have hcontent : backendOf (.content bytes) = backendIn text := by rw [backendOf, hutf8]
  rcases read_plain hlines with ⟨r, hr, hholds⟩ | ⟨k, e, hk, he, hfault⟩
  · have hanswer : backendOf (.content bytes) =
        .ok (((r.value? backendOption).map strip).filter (· ≠ "")) := by
      rw [hcontent, backendIn, hr]
    obtain ⟨hset, hunset⟩ := hholds.value?
    refine ⟨fun _ => ⟨fun e he hname => ?_, fun hnone => ?_⟩, fun hrepeated => ?_⟩
    · have hstripped : strip e.setting = e.setting := strip_strip _
      rw [hanswer, ← hname, hset e he, Option.map_some, hstripped]
      by_cases hempty : e.setting = "" <;> simp [hempty]
    · rw [hanswer, hunset backendOption (by simpa using hnone)]
      rfl
    · exact absurd hholds.distinct hrepeated
  · have hrepeated := not_nodup_of_repeated hk he
    have hanswer : backendOf (.content bytes) =
        .error (.duplicateOption (k + 2) e.name firstSection) := by
      rw [hcontent, backendIn, hfault]
    refine ⟨fun hdistinct => absurd hdistinct hrepeated, fun _ => ⟨?_, k, e, hk, he, hanswer⟩⟩
    rw [named?, hanswer]

/-- The first entry of the file below. -/
def plainEntry : Entry where
  key := "SOLVER ".toList
  delimiter := ':'
  value := " glpk=4:65 # exact ".toList
  starts := ⟨'S', "OLVER ".toList, by decide, by decide, by decide⟩
  plain := by simp
  delimits := .inr rfl

/-- A plain file with a comment, blank lines and both delimiters. -/
def plainText : String :=
  "# chosen\n\nSOLVER : glpk=4:65 # exact \r\n\t\nother = 2\n"

def plainLines : List Line :=
  [.comment [] '#' " chosen".toList (by simp) (.inl rfl), .blank [] (by simp),
    .entry plainEntry, .blank ['\t'] (by simp [isBlank]),
    .entry ⟨"other ".toList, '=', " 2".toList,
      ⟨'o', "ther ".toList, by decide, by decide, by decide⟩, by simp, .inl rfl⟩,
    .blank [] (by simp)]

/-- A plain file that names two backends. -/
def repeatedText : String :=
  "solver=pulp\n\nSolver: scipy"

def repeatedLines : List Line :=
  [.entry ⟨"solver".toList, '=', "pulp".toList,
      ⟨'s', "olver".toList, by decide, by decide, by decide⟩, by simp, .inl rfl⟩,
    .blank [] (by simp),
    .entry ⟨"Solver".toList, ':', " scipy".toList,
      ⟨'S', "olver".toList, by decide, by decide, by decide⟩, by simp, .inr rfl⟩]

/-- What is behind the first delimiter is the name, other delimiters and marks included. -/
theorem backendOf_plain_samples :
    backendOf (.content plainText.toUTF8) = .ok (some "glpk=4:65 # exact") ∧
      named? (.content repeatedText.toUTF8) = none := by
  constructor
  · have hutf8 : String.fromUTF8? plainText.toUTF8 = some plainText := by rfl
    have hlines : lines (unifyLineEnds plainText.toList) = plainLines.map Line.text := by
      decide +kernel
    have hdistinct : ((Line.entries plainLines).map Entry.name).Nodup := by decide +kernel
    have hentry : plainEntry ∈ Line.entries plainLines := List.mem_cons_self
    have hname : plainEntry.name = backendOption := by decide +kernel
    have hsetting : plainEntry.setting = "glpk=4:65 # exact" := by decide +kernel
    obtain ⟨hset, -⟩ := (backendOf_plain hutf8 hlines).1 hdistinct
    rw [hset plainEntry hentry hname, hsetting, if_neg (by decide)]
  · have hutf8 : String.fromUTF8? repeatedText.toUTF8 = some repeatedText := by rfl
    have hlines : lines (unifyLineEnds repeatedText.toList) = repeatedLines.map Line.text := by
      decide +kernel
    have hrepeated : ¬ ((Line.entries repeatedLines).map Entry.name).Nodup := by decide +kernel
    exact ((backendOf_plain hutf8 hlines).2 hrepeated).1

end LinearDispatch.Settings
