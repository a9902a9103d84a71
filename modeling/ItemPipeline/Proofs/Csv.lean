import ItemPipeline.Csv.Table
import ItemPipeline.Proofs.Members
import Mathlib.Data.List.Forall2

/-!
A table written with every cell between quotes is read back cell by cell, and each of its rows becomes the
object of its cells under the keys of their columns.
-/

namespace ItemPipeline.Csv

def printCell (quote : Char) (cell : String) : List Char :=
  quote :: cell.toList.flatMap (fun c => if c = quote then [quote, quote] else [c]) ++ [quote]

def printRow (delimiter quote : Char) (row : List String) : List Char :=
  [delimiter].intercalate (row.map (printCell quote)) ++ ['\n']

def print (delimiter quote : Char) (table : List (List String)) : String :=
  String.ofList (table.flatMap (printRow delimiter quote))

def IsSign (c : Char) : Prop :=
  c.toNat < 128 ∧ c ≠ '\r' ∧ c ≠ '\n'

instance : DecidablePred IsSign :=
  fun _ => inferInstanceAs (Decidable (_ ∧ _ ∧ _))

structure IsRecord (key : Nat → String) (row : List String) (m : Json.Members) : Prop where
  ascending : m.Ascending
  mem_iff : ∀ k v, (k, v) ∈ m ↔
    ∃ i, ∃ h : i < row.length, k = key i ∧ v = .str row[i] ∧ ∀ j, i < j → j < row.length → key j ≠ k

structure IsNumbered (row : List String) (m : Json.Members) : Prop where
  ascending : m.Ascending
  mem_iff : ∀ k v, (k, v) ∈ m ↔ ∃ i, ∃ h : i < row.length, k = toString (i + 1) ∧ v = .str row[i]

variable {d q c : Char} {row : List String} {rows table : List (List String)} {cell : String} {s : Scan}

lemma foldl_doubled (cs : List Char) (opened : s.place = .quoted) :
    (cs.flatMap fun c => if c = q then [q, q] else [c]).foldl (Scan.step ⟨d, some q⟩) s =
      { s with cell := cs.reverse ++ s.cell } := by
  induction cs generalizing s with
  | nil => rfl
  | cons c cs ih =>
    have one : (if c = q then [q, q] else [c]).foldl (Scan.step ⟨d, some q⟩) s = { s with cell := c :: s.cell } := by
      by_cases same : c = q
      · simp [same, Scan.step, opened, Scan.put]
      · simp [same, Ne.symm same, Scan.step, opened, Scan.put]
    rw [List.flatMap_cons, List.foldl_append, one, ih (by exact opened)]
    simp

lemma foldl_printCell (hq : IsSign q) (start : s.place = .startRecord ∨ s.place = .startCell) (empty : s.cell = []) :
    (printCell q cell).foldl (Scan.step ⟨d, some q⟩) s =
      { s with place := .afterQuote, cell := cell.toList.reverse } := by
  have opens : Scan.step ⟨d, some q⟩ s q = { s with place := .quoted } := by
    obtain start | start := start
    · simp [Scan.step, start, Scan.recordStart, Scan.cellStart, Scan.isRowEnd, hq.2.1, hq.2.2]
    · simp [Scan.step, start, Scan.cellStart]
  rw [printCell, List.cons_append, List.foldl_cons, opens, List.foldl_append, foldl_doubled _ rfl]
  simp [Scan.step, empty]

lemma foldl_printRow (hd : IsSign d) (hq : IsSign q) (ne : d ≠ q) (filled : row ≠ [])
    (start : s.place = .startRecord ∨ s.place = .startCell) (empty : s.cell = []) :
    (printRow d q row).foldl (Scan.step ⟨d, some q⟩) s = ⟨.startRecord, [], [], (s.row.reverse ++ row) :: s.rows⟩ := by
  unfold printRow
  induction row generalizing s with
  | nil => contradiction
  | cons cell row ih =>
    cases row with
    | nil =>
      have line : q ≠ '\n' ∧ d ≠ '\n' := ⟨hq.2.2, hd.2.2⟩
      simp [List.foldl_append, foldl_printCell hq start empty, Scan.step, Scan.plainChar, Scan.isRowEnd, Scan.endRow,
        Scan.endCell, line, Ne.symm line.2]
    | cons next row =>
      rw [List.map_cons, List.map_cons, List.intercalate_cons_cons, ← List.map_cons, List.append_assoc,
        List.append_assoc, List.foldl_append, foldl_printCell hq start empty, List.singleton_append, List.foldl_cons]
      have parted : Scan.step ⟨d, some q⟩ { s with place := .afterQuote, cell := cell.toList.reverse } d =
          { s with place := .startCell, cell := [], row := cell :: s.row } := by
        simp [Scan.step, Ne.symm ne, Scan.plainChar, Scan.endCell]
      rw [parted, ih (by simp) (.inr rfl) rfl]
      simp

lemma foldl_table (hd : IsSign d) (hq : IsSign q) (ne : d ≠ q) (filled : ∀ row ∈ table, row ≠ []) :
    (table.flatMap (printRow d q)).foldl (Scan.step ⟨d, some q⟩) ⟨.startRecord, [], [], rows⟩ =
      ⟨.startRecord, [], [], table.reverse ++ rows⟩ := by
  induction table generalizing rows with
  | nil => rfl
  | cons row table ih =>
    rw [List.forall_mem_cons] at filled
    rw [List.flatMap_cons, List.foldl_append, foldl_printRow hd hq ne filled.1 (.inl rfl) rfl, ih filled.2]
    simp

lemma dropMark_of_head {s : List Char} (h : s.head? ≠ some '\uFEFF') : dropMark s = s := by
  unfold dropMark
  split
  · simp at h
  · rfl

lemma printRow_head (filled : row ≠ []) : ∃ s, printRow d q row = q :: s := by
  match row, filled with
  | [cell], _ => exact ⟨_, rfl⟩
  | cell :: next :: row, _ =>
    rw [printRow, List.map_cons, List.map_cons, List.intercalate_cons_cons]
    exact ⟨_, rfl⟩

lemma records_print (hd : IsSign d) (hq : IsSign q) (ne : d ≠ q) (filled : ∀ row ∈ table, row ≠ []) :
    records ⟨d, some q⟩ (print d q table).toList = table := by
  have unmarked : (print d q table).toList.head? ≠ some '\uFEFF' := by
    rw [print, String.toList_ofList]
    cases table with
    | nil => simp
    | cons row table =>
      obtain ⟨s, first⟩ := printRow_head (d := d) (q := q) (filled row List.mem_cons_self)
      rw [List.flatMap_cons, first]
      rintro ⟨⟩
      exact absurd hq.1 (by decide)
  rw [records, dropMark_of_head unmarked, print, String.toList_ofList, foldl_table hd hq ne filled]
  simp [Scan.finish]

lemma format_signs (hd : IsSign d) (hq : IsSign q) :
    format (String.singleton d) (String.singleton q) = .ok ⟨d, some q⟩ := by
  have quoted : String.singleton q ≠ "" := by
    intro empty
    simpa using congrArg String.toList empty
  simp [format, sign?, hd.1, hq.1, quoted]

lemma lookup_reverse_eq_some_iff {l : List (String × Json)} {k : String} {v : Json} :
    l.reverse.lookup k = some v ↔
      ∃ i, ∃ h : i < l.length, l[i] = (k, v) ∧ ∀ e ∈ l.drop (i + 1), e.1 ≠ k := by
  rw [List.lookup_eq_some_iff]
  constructor
  · rintro ⟨later, earlier, split, other⟩
    obtain rfl : l = earlier.reverse ++ (k, v) :: later.reverse := by
      rw [← List.reverse_reverse l, split]
      simp
    have behind : (earlier.reverse ++ (k, v) :: later.reverse).drop (earlier.length + 1) = later.reverse := by
      rw [List.append_cons, List.drop_left' (by simp)]
    refine ⟨earlier.length, by simp, by simp, fun e he => ?_⟩
    rw [behind, List.mem_reverse] at he
    simpa using Ne.symm (by simpa using other e he)
  · rintro ⟨i, h, here, later⟩
    have parts : l = l.take i ++ (k, v) :: l.drop (i + 1) := by
      rw [← here, ← List.drop_eq_getElem_cons h, List.take_append_drop]
    refine ⟨(l.drop (i + 1)).reverse, (l.take i).reverse, ?_, fun e he => ?_⟩
    · simpa using congrArg List.reverse parts
    · simpa using Ne.symm (later e (List.mem_reverse.1 he))

lemma isRecord_rowJson (header row : List String) :
    ∃ m, rowJson header row = .object m ∧ IsRecord (columnKey header) row m := by
  refine ⟨_, rfl, Json.Members.ascending_ofList, fun k v => ?_⟩
  have behind (i : Nat) : (∀ e ∈ (row.zipIdx.map fun e => (columnKey header e.2, Json.str e.1)).drop (i + 1), e.1 ≠ k) ↔
      ∀ j, i < j → j < row.length → columnKey header j ≠ k := by
    constructor
    · intro h j after lt
      exact h (columnKey header j, .str row[j]) (List.mem_drop_iff_getElem.2
        ⟨j - (i + 1), by simp; omega, by simp [Nat.add_sub_cancel' (show i + 1 ≤ j from after)]⟩)
    · intro h e he
      obtain ⟨j, lt, rfl⟩ := List.mem_drop_iff_getElem.1 he
      simpa using h (i + 1 + j) (by omega) (by simp at lt; omega)
  rw [Json.Members.ascending_ofList.mem_iff, Json.Members.get?_ofList, lookup_reverse_eq_some_iff]
  simp only [behind]
  simp [eq_comm, and_assoc]

lemma forall₂_isRecord (header : List String) (rows : List (List String)) :
    ∃ objects : List Json.Members, rows.map (rowJson header) = objects.map .object ∧
      List.Forall₂ (IsRecord (columnKey header)) rows objects := by
  induction rows with
  | nil => exact ⟨[], rfl, .nil⟩
  | cons row rows ih =>
    obtain ⟨objects, eq, records⟩ := ih
    obtain ⟨m, object, record⟩ := isRecord_rowJson header row
    exact ⟨m :: objects, by simp [object, eq], .cons record records⟩

lemma repr_injective {m n : Nat} (h : m.repr = n.repr) : m = n := by
  have digits := congrArg (fun s => Nat.ofDigitChars 10 s.toList 0) h
  simpa [Nat.toList_repr, Nat.ofDigitChars_toDigits] using digits

lemma IsRecord.isNumbered {m : Json.Members} (h : IsRecord (columnKey []) row m) : IsNumbered row m := by
  refine ⟨h.ascending, fun k v => ?_⟩
  rw [h.mem_iff]
  constructor
  · rintro ⟨i, lt, key, value, -⟩
    exact ⟨i, lt, key, value⟩
  · rintro ⟨i, lt, key, value⟩
    refine ⟨i, lt, key, value, fun j after _ same => ?_⟩
    have : j + 1 = i + 1 := repr_injective (same.trans key)
    omega

lemma IsRecord.keeps {key : Nat → String} {m : Json.Members} (h : IsRecord key row m)
    (distinct : ∀ i j, i < row.length → j < row.length → key i = key j → i = j) (i : Nat) (lt : i < row.length) :
    (key i, .str row[i]) ∈ m := by
  refine (h.mem_iff _ _).2 ⟨i, lt, rfl, rfl, fun j after lt' same => ?_⟩
  have := distinct j i lt' lt same
  omega

end ItemPipeline.Csv
