import FrameBus.Proofs.Toml.Values

/-!
# Documents of TOML that are read back

A document is read line by line, each from one draft to the next (`Reader.Passes`): an entry puts a
value in the open table, a header closes that and opens another. So a table of entries is read under
its header (`Field.passes_table`), and an array of tables under its headers (`Field.passes_array`).
Once all lines are read the open table is closed as well (`read?_of_passes`).
-/

namespace FrameBus.Toml

/-! ## Tables -/

section

variable {pre inner es : Entries} {name other : String} {node new : Node}

theorem lookup_last (h : pre.lookup name = none) :
    (pre ++ [(name, node)]).lookup name = some node := by
  simp [List.lookup_append, h]

theorem set_last (h : pre.lookup name = none) :
    Entries.set name new (pre ++ [(name, node)]) = pre ++ [(name, new)] := by
  induction pre with
  | nil => simp [Entries.set]
  | cons e pre ih =>
    have absent := List.lookup_eq_none_iff.1 h
    have other : ¬ e.1 = name := fun same => by simpa [same] using absent e List.mem_cons_self
    have rest : pre.lookup name = none :=
      List.lookup_eq_none_iff.2 fun p hp => absent p (List.mem_cons_of_mem _ hp)
    rw [List.cons_append, Entries.set, if_neg other, ih rest, List.cons_append]

/-- A change of the last table. -/
theorem descend_last {change : Bool → Entries → Option Entries} {isDotted implicit here : Bool}
    (h : pre.lookup name = none) :
    descend false change [name] isDotted (pre ++ [(name, .table implicit here inner)]) =
      (change here inner).map fun es => pre ++ [(name, .table implicit here es)] := by
  simp only [descend, lookup_last h, Bool.false_and, Bool.false_eq_true, if_false]
  cases change here inner with
  | none => rfl
  | some es => exact congrArg some (set_last h)

end

namespace Draft

variable {d : Draft} {root pre inner : Entries} {a b name : String}

theorem insert_new {v : Value} (h : d.current.lookup name = none) :
    d.insert [] name v = some { d with current := d.current ++ [(name, .value v)] } := by
  simp [Draft.insert, Toml.insert, descend, h]

theorem finish_table (root : Entries) (name : String) (current : Entries)
    (h : root.lookup name = none) :
    (⟨root, current, [name], false⟩ : Draft).finish =
      some (root ++ [(name, .table false false current)]) := by
  simp [finish, parent, lastName, descend, h]

theorem openTable_new (finished : d.finish = some root) (h : root.lookup name = none) :
    d.openTable [name] = some ⟨root, [], [name], false⟩ := by
  simp [openTable, finished, parent, lastName, descend, openTable.lookupAt, h]

/-- A root whose last table has an array of tables at its end. -/
def nested (pre inner : Entries) (a b : String) (items : List Entries) : Entries :=
  pre ++ [(a, .table false false (inner ++ [(b, .tables items)]))]

theorem openArray_first (finished : d.finish = some (pre ++ [(a, .table false false inner)]))
    (ha : pre.lookup a = none) (hb : inner.lookup b = none) :
    d.openArray [a, b] = some ⟨nested pre inner a b [], [], [a, b], true⟩ := by
  simp [openArray, finished, parent, lastName, descend_last ha, hb, nested]

theorem finish_array {items : List Entries} {current : Entries} (ha : pre.lookup a = none)
    (hb : inner.lookup b = none) :
    (⟨nested pre inner a b items, current, [a, b], true⟩ : Draft).finish =
      some (nested pre inner a b (items ++ [current])) := by
  simp [finish, parent, lastName, nested, descend_last ha, lookup_last hb, set_last hb]

theorem openArray_next (items : List Entries) (current : Entries) (ha : pre.lookup a = none)
    (hb : inner.lookup b = none) :
    (⟨nested pre inner a b items, current, [a, b], true⟩ : Draft).openArray [a, b] =
      some ⟨nested pre inner a b (items ++ [current]), [], [a, b], true⟩ := by
  simp only [openArray, finish_array ha hb, Option.bind_eq_bind, Option.bind_some]
  simp [parent, lastName, nested, descend_last ha, lookup_last hb]

end Draft

namespace Reader

variable {d d' e : Draft} {cs rest : List Char} {name a b : String} {lines more : List String}

/-! ## Keys -/

/-- A name that needs no quotes as a key. -/
structure Bare (name : String) : Prop where
  ne_nil : name.toList ≠ []
  all : ∀ c ∈ name.toList, isBare c = true

instance (name : String) : Decidable (Bare name) :=
  decidable_of_iff (name.toList.isEmpty = false ∧ name.toList.all isBare = true)
    ⟨fun h => ⟨List.isEmpty_eq_false_iff.1 h.1, List.all_eq_true.1 h.2⟩,
      fun h => ⟨List.isEmpty_eq_false_iff.2 h.ne_nil, List.all_eq_true.2 h.all⟩⟩

theorem ne_of_isBare {c d : Char} (hc : isBare c = true) (hd : isBare d = false) : c ≠ d := by
  rintro rfl
  rw [hd] at hc
  cases hc

theorem isBlank_of_isBare {c : Char} (h : isBare c = true) : isBlank c = false := by
  have space : c ≠ ' ' := ne_of_isBare h (by decide)
  have tab : c ≠ '\t' := ne_of_isBare h (by decide)
  simp [isBlank, space, tab]

/-- The first character of a bare name. -/
theorem Bare.eq_cons (h : Bare name) : ∃ c more, name.toList = c :: more ∧ isBare c = true := by
  cases e : name.toList with
  | nil => exact absurd e h.ne_nil
  | cons c more => exact ⟨c, more, rfl, h.all c (e ▸ List.mem_cons_self)⟩

theorem Bare.skip (h : Bare name) (rest : List Char) :
    skip (name.toList ++ rest) = name.toList ++ rest := by
  obtain ⟨c, more, e, bare⟩ := h.eq_cons
  rw [e]
  exact dropWhile_of_stops (stops_cons.2 (isBlank_of_isBare bare))

theorem simpleKey?_bare (h : Bare name) (stop : Stops isBare rest) :
    simpleKey? (name.toList ++ rest) = some (name, rest) := by
  have span := span_append h.all stop
  obtain ⟨c, more, e, bare⟩ := h.eq_cons
  rw [e, List.cons_append] at span
  rw [e, List.cons_append, simpleKey?, span]
  · simp only [← e, String.ofList_toList]
  · exact fun _ same => ne_of_isBare bare (by decide) (List.cons.inj same).1
  · exact fun _ same => ne_of_isBare bare (by decide) (List.cons.inj same).1

theorem key?_bare (fuel : Nat) (h : Bare name) (stop : Stops isBare rest)
    (dot : Stops (· == '.') (skip rest)) :
    key? (fuel + 1) (name.toList ++ rest) = some ([name], skip rest) := by
  rw [key?, h.skip, simpleKey?_bare h stop]
  simp only [Option.bind_eq_bind, Option.bind_some]
  split
  · next e => simp [e, stops_cons] at dot
  · rfl

theorem key?_dotted (fuel : Nat) (ha : Bare a) (hb : Bare b) (stop : Stops isBare rest)
    (dot : Stops (· == '.') (skip rest)) :
    key? (fuel + 2) (a.toList ++ '.' :: (b.toList ++ rest)) = some ([a, b], skip rest) := by
  rw [key?, ha.skip, simpleKey?_bare ha (stops_cons.2 (by decide))]
  have dot_first : skip ('.' :: (b.toList ++ rest)) = '.' :: (b.toList ++ rest) := rfl
  simp only [Option.bind_eq_bind, Option.bind_some, dot_first, key?_bare fuel hb stop dot]
  rfl

theorem path?_bare (h : Bare name) (rest : List Char) (stop : Stops isBare rest)
    (dot : Stops (· == '.') (skip rest)) :
    path? (name.toList ++ rest) = some ([], name, skip rest) := by
  rw [path?, key?_bare _ h stop dot]
  rfl

theorem path?_dotted (ha : Bare a) (hb : Bare b) (rest : List Char) (stop : Stops isBare rest)
    (dot : Stops (· == '.') (skip rest)) :
    path? (a.toList ++ '.' :: (b.toList ++ rest)) = some ([a], b, skip rest) := by
  have fuel : (a.toList ++ '.' :: (b.toList ++ rest)).length + 1 =
      a.toList.length + (b.toList ++ rest).length + 2 := by
    rw [List.length_append, List.length_cons]
    rfl
  rw [path?, fuel, key?_dotted _ ha hb stop dot]
  rfl

/-! ## Lines -/

/-- The characters of lines, each with its end. -/
def chars (lines : List String) : List Char := lines.flatMap fun l => l.toList ++ ['\n']

/-- A reader that has enough steps comes over lines, from one draft to another. -/
def Passes (d : Draft) (lines : List String) (d' : Draft) : Prop :=
  ∀ fuel rest, (chars lines ++ rest).length < fuel →
    ∃ left, rest.length < left ∧ lines? fuel d (chars lines ++ rest) = lines? left d' rest

theorem Passes.nil (d : Draft) : Passes d [] d := fun fuel _ more => ⟨fuel, more, rfl⟩

theorem Passes.append (h : Passes d lines d') (k : Passes d' more e) :
    Passes d (lines ++ more) e := by
  intro fuel rest enough
  have both : chars (lines ++ more) ++ rest = chars lines ++ (chars more ++ rest) := by
    simp [chars]
  rw [both] at enough ⊢
  obtain ⟨left, enough, first⟩ := h fuel _ enough
  obtain ⟨left', enough, second⟩ := k left rest enough
  exact ⟨left', enough, first.trans second⟩

/-- One line, which one step of the reader takes. -/
theorem passes_line {line : String}
    (h : ∀ fuel rest, lines? (fuel + 1) d (line.toList ++ '\n' :: rest) = lines? fuel d' rest) :
    Passes d [line] d' := by
  intro fuel rest enough
  obtain ⟨fuel, rfl⟩ := Nat.exists_eq_add_one_of_ne_zero (Nat.ne_zero_of_lt enough)
  have one : chars [line] ++ rest = line.toList ++ '\n' :: rest := by simp [chars]
  rw [one, List.length_append, List.length_cons] at enough
  exact ⟨fuel, by omega, by rw [one, h]⟩

theorem lineEnd?_newline (rest : List Char) : lineEnd? ('\n' :: rest) = some rest := rfl

theorem passes_blank (d : Draft) : Passes d [""] d := passes_line fun _ _ => rfl

/-- A line that begins like an entry. -/
theorem lines?_bare (fuel : Nat) {c : Char} (bare : isBare c = true)
    (read : entry? d (c :: cs) = some (d', rest)) :
    lines? (fuel + 1) d (c :: cs) = lines? fuel d' rest := by
  have other {x : Char} (hx : isBare x = false) : c ≠ x := ne_of_isBare bare hx
  have skipped : skip (c :: cs) = c :: cs :=
    dropWhile_of_stops (stops_cons.2 (isBlank_of_isBare bare))
  rw [lines?, skipped]
  split
  · next e => cases e
  · next e => exact absurd (List.cons.inj e).1 (other (by decide))
  · next e => exact absurd (List.cons.inj e).1 (other (by decide))
  · rw [newline?_of_ne (other (by decide)) (other (by decide))]
    simp only [read]

theorem lines?_header (fuel : Nat) (read : header? d cs = some (d', rest)) :
    lines? (fuel + 1) d ('[' :: cs) = lines? fuel d' rest := by
  have skipped : skip ('[' :: cs) = '[' :: cs := rfl
  simp only [lines?, skipped, read]

theorem passes_entry {text : String} {v : Value} (h : Bare name) (spells : Spells text.toList v)
    (e : d.insert [] name v = some d') : Passes d [Writer.entry name text] d' := by
  refine passes_line fun fuel rest => ?_
  have line : (Writer.entry name text).toList ++ '\n' :: rest =
      name.toList ++ ' ' :: '=' :: ' ' :: (text.toList ++ '\n' :: rest) := by
    simp [Writer.entry]
  have key := path?_bare h (' ' :: '=' :: ' ' :: (text.toList ++ '\n' :: rest))
    (stops_cons.2 (by decide)) (stops_cons.2 (by decide))
  have value : skip (' ' :: (text.toList ++ '\n' :: rest)) = text.toList ++ '\n' :: rest :=
    dropWhile_of_stops (spells.first _)
  have read : entry? d (name.toList ++ ' ' :: '=' :: ' ' :: (text.toList ++ '\n' :: rest)) =
      some (d', rest) := by
    have equals : skip (' ' :: '=' :: ' ' :: (text.toList ++ '\n' :: rest)) =
        '=' :: ' ' :: (text.toList ++ '\n' :: rest) := rfl
    rw [equals] at key
    simp only [key, entry?, Option.bind_eq_bind, Option.bind_some, value, spells.read,
      lineEnd?_newline, e]
    rfl
  obtain ⟨c, more, name_eq, bare⟩ := h.eq_cons
  rw [line]
  rw [name_eq, List.cons_append] at read ⊢
  exact lines?_bare fuel bare read

theorem passes_table (h : Bare name) (e : d.openTable [name] = some d') :
    Passes d ["[" ++ name ++ "]"] d' := by
  refine passes_line fun fuel rest => ?_
  have line : ("[" ++ name ++ "]").toList ++ '\n' :: rest =
      '[' :: (name.toList ++ ']' :: '\n' :: rest) := by
    simp
  have key := path?_bare h (']' :: '\n' :: rest) (stops_cons.2 (by decide))
    (stops_cons.2 (by decide))
  have bracket : skip (']' :: '\n' :: rest) = ']' :: '\n' :: rest := rfl
  have read : header? d (name.toList ++ ']' :: '\n' :: rest) = some (d', rest) := by
    rw [bracket] at key
    obtain ⟨c, more, name_eq, bare⟩ := h.eq_cons
    rw [name_eq, List.cons_append] at key ⊢
    unfold header?
    split
    · next e' => exact absurd (List.cons.inj e').1 (ne_of_isBare bare (by decide))
    · simp [key, lineEnd?_newline, e]
  rw [line, lines?_header fuel read]

theorem passes_array (ha : Bare a) (hb : Bare b) (e : d.openArray [a, b] = some d') :
    Passes d ["[[" ++ a ++ "." ++ b ++ "]]"] d' := by
  refine passes_line fun fuel rest => ?_
  have line : ("[[" ++ a ++ "." ++ b ++ "]]").toList ++ '\n' :: rest =
      '[' :: '[' :: (a.toList ++ '.' :: (b.toList ++ ']' :: ']' :: '\n' :: rest)) := by
    simp
  have key := path?_dotted ha hb (']' :: ']' :: '\n' :: rest) (stops_cons.2 (by decide))
    (stops_cons.2 (by decide))
  have read : header? d ('[' :: (a.toList ++ '.' :: (b.toList ++ ']' :: ']' :: '\n' :: rest))) =
      some (d', rest) := by
    have bracket : skip (']' :: ']' :: '\n' :: rest) = ']' :: ']' :: '\n' :: rest := rfl
    rw [bracket] at key
    simp [header?, key, lineEnd?_newline, e]
  rw [line, lines?_header fuel read]

end Reader

/-! ## Tables of entries -/

/-- An entry with a bare name, its value as it is written and as it is read. -/
structure Field where
  name : String
  text : String
  value : Value

namespace Field

open Reader

def line (f : Field) : String := Writer.entry f.name f.text

def node (f : Field) : String × Node := (f.name, .value f.value)

def pair (f : Field) : String × Value := (f.name, f.value)

/-- An entry that is read as it is meant. -/
structure Reads (f : Field) : Prop where
  bare : Bare f.name
  spells : Spells f.text.toList f.value

/-- Entries of one table. -/
structure AllRead (fs : List Field) : Prop where
  reads : ∀ f ∈ fs, f.Reads
  names : (fs.map name).Nodup

variable {d : Draft} {fs : List Field} {ts : List (List Field)} {root pre inner : Entries}
  {name a b : String}

theorem passes_more (reads : ∀ f ∈ fs, f.Reads)
    (names : (d.current.map Prod.fst ++ fs.map Field.name).Nodup) :
    Passes d (fs.map line) { d with current := d.current ++ fs.map node } := by
  induction fs generalizing d with
  | nil => simpa using Passes.nil d
  | cons f fs ih =>
    have new : d.current.lookup f.name = none := by
      rw [List.lookup_eq_none_iff]
      intro e he
      have apart := (List.nodup_append.1 names).2.2 e.1 (List.mem_map_of_mem he) f.name
        List.mem_cons_self
      simpa using apart.symm
    have first := passes_entry (reads f List.mem_cons_self).bare (reads f List.mem_cons_self).spells
      (Draft.insert_new new)
    have rest := ih (d := { d with current := d.current ++ [(f.name, .value f.value)] })
      (fun g hg => reads g (List.mem_cons_of_mem _ hg)) (by simpa using names)
    simpa [line, node] using first.append rest

/-- A table with its header. -/
theorem passes_table (name : String) (h : AllRead fs) (bare : Bare name)
    (finished : d.finish = some root) (new : root.lookup name = none) :
    Passes d (("[" ++ name ++ "]") :: fs.map line) ⟨root, fs.map node, [name], false⟩ := by
  have header := Reader.passes_table bare (Draft.openTable_new finished new)
  have entries := passes_more (d := ⟨root, [], [name], false⟩) h.reads (by simpa using h.names)
  simpa using header.append entries

/-- The lines of an array of tables. -/
def itemLines (a b : String) (fs : List Field) : List String :=
  "" :: ("[[" ++ a ++ "." ++ b ++ "]]") :: fs.map line

theorem passes_item (h : AllRead fs) (ha : Bare a) (hb : Bare b)
    (opened : d.openArray [a, b] = some ⟨root, [], [a, b], true⟩) :
    Passes d (itemLines a b fs) ⟨root, fs.map node, [a, b], true⟩ := by
  have header := Reader.passes_array ha hb opened
  have entries := passes_more (d := ⟨root, [], [a, b], true⟩) h.reads (by simpa using h.names)
  simpa [itemLines] using ((passes_blank d).append header).append entries

/-- More tables of an array. -/
theorem passes_items (h : ∀ fs ∈ ts, AllRead fs) (bare_a : Bare a) (bare_b : Bare b)
    (ha : pre.lookup a = none) (hb : inner.lookup b = none) (items : List Entries)
    (current : Entries) :
    ∃ d', Passes ⟨Draft.nested pre inner a b items, current, [a, b], true⟩
        (ts.flatMap (itemLines a b)) d' ∧
      d'.finish =
        some (Draft.nested pre inner a b (items ++ current :: ts.map (List.map node))) := by
  induction ts generalizing items current with
  | nil => exact ⟨_, .nil _, Draft.finish_array ha hb⟩
  | cons fs ts ih =>
    have first := passes_item (h fs List.mem_cons_self) bare_a bare_b
      (Draft.openArray_next items current ha hb)
    obtain ⟨d', rest, finished⟩ := ih (fun fs hfs => h fs (List.mem_cons_of_mem _ hfs))
      (items ++ [current]) (fs.map node)
    exact ⟨d', by simpa using first.append rest, by simpa using finished⟩

/-- An array of tables in the last table. -/
theorem passes_array (h : ∀ fs ∈ ts, AllRead fs) (ne : ts ≠ []) (bare_a : Bare a)
    (bare_b : Bare b) (finished : d.finish = some (pre ++ [(a, .table false false inner)]))
    (ha : pre.lookup a = none) (hb : inner.lookup b = none) :
    ∃ d', Passes d (ts.flatMap (itemLines a b)) d' ∧
      d'.finish = some (Draft.nested pre inner a b (ts.map (List.map node))) := by
  cases ts with
  | nil => exact absurd rfl ne
  | cons fs ts =>
    have first := passes_item (h fs List.mem_cons_self) bare_a bare_b
      (Draft.openArray_first finished ha hb)
    obtain ⟨d', rest, finished⟩ := passes_items
      (fun fs hfs => h fs (List.mem_cons_of_mem _ hfs)) bare_a bare_b ha hb [] (fs.map node)
    exact ⟨d', by simpa using first.append rest, by simpa using finished⟩

theorem entriesToValues_node (fs : List Field) : entriesToValues (fs.map node) = fs.map pair := by
  induction fs with
  | nil => rfl
  | cons f fs ih => simp [entriesToValues, node, pair, Node.toValue, ih]

theorem tablesToValues_node (ts : List (List Field)) :
    tablesToValues (ts.map (List.map node)) = ts.map fun fs => .table (fs.map pair) := by
  induction ts with
  | nil => rfl
  | cons fs ts ih => simp [tablesToValues, entriesToValues_node, ih]

end Field

/-! ## Documents -/

theorem entriesToValues_append (es fs : Entries) :
    entriesToValues (es ++ fs) = entriesToValues es ++ entriesToValues fs := by
  induction es with
  | nil => rfl
  | cons e es ih => simp [entriesToValues, ih]

/-- The text of lines. -/
theorem toList_join (lines : List String) :
    (String.join (lines.map fun l => l ++ "\n")).toList = Reader.chars lines := by
  simp [Reader.chars, List.flatMap_map]

/-- A byte order mark would be skipped. -/
theorem read?_eq {text : String} {c : Char} {cs : List Char} (e : text.toList = c :: cs)
    (first : c.toNat ≠ 0xFEFF) : Reader.read? text =
      ((Reader.lines? ((c :: cs).length + 1) {} (c :: cs)).bind Draft.finish).map
        fun root => .table (entriesToValues root) := by
  simp only [Reader.read?, e, if_neg first]
  cases Reader.lines? ((c :: cs).length + 1) {} (c :: cs) with
  | none => rfl
  | some d =>
    simp only [Option.bind_eq_bind, Option.bind_some]
    cases d.finish <;> rfl

theorem read?_of_passes {lines : List String} {d : Draft} {root : Entries} {c : Char}
    {cs : List Char} (passes : Reader.Passes {} lines d) (finished : d.finish = some root)
    (e : Reader.chars lines = c :: cs) (first : c.toNat ≠ 0xFEFF) :
    Reader.read? (String.join (lines.map fun l => l ++ "\n")) =
      some (.table (entriesToValues root)) := by
  obtain ⟨left, enough, read⟩ := passes _ [] (Nat.lt_succ_self _)
  obtain ⟨left, rfl⟩ := Nat.exists_eq_add_one_of_ne_zero (Nat.ne_zero_of_lt enough)
  have all : Reader.lines? ((c :: cs).length + 1) {} (c :: cs) = some d := by
    rw [List.append_nil, e] at read
    exact read
  rw [read?_eq ((toList_join lines).trans e) first, all, Option.bind_some, finished]
  rfl

end FrameBus.Toml
