import Lldpdu.Text.Utf8
import Mathlib.Tactic.Common

/-!
# Written text is read back

The UTF-8 octets of a text are read as that text.  Each character takes the machine from between
characters to between characters again, and gives itself: its lead octet selects a row of the
table, its second octet is in the range of that row, and any octets after that are in the range
of all continuations.
-/

namespace Lldpdu.Text

/-! ## Rows of the table -/

/-- Rows that follow one another in the order of their lead octets have no lead octet in common. -/
theorem find?_eq_some_of_pairwise {rows : List LeadClass}
    (sorted : rows.Pairwise fun row next => row.last < next.first) {row : LeadClass}
    (member : row ∈ rows) {lead : UInt8} (first : row.first ≤ lead) (last : lead ≤ row.last) :
    (rows.find? fun row => row.first ≤ lead && lead ≤ row.last) = some row := by
  induction rows with
  | nil => contradiction
  | cons head rows ih =>
      rw [List.pairwise_cons] at sorted
      rcases sorted with ⟨before, sorted⟩
      rcases List.mem_cons.mp member with rfl | member
      · exact List.find?_cons_of_pos (by simp [first, last])
      · have passed : head.last < lead := UInt8.lt_of_lt_of_le (before row member) first
        rw [List.find?_cons_of_neg (by simp [UInt8.not_le.mpr passed])]
        exact ih sorted member

theorem enter_of_mem {row : LeadClass} (member : row ∈ leadClasses) {lead : UInt8}
    (first : row.first ≤ lead) (last : lead ≤ row.last) :
    enter lead = ([], some ⟨lead.toNat % row.payload, row.low, row.high, row.more⟩) := by
  have beyond : ∀ row ∈ leadClasses, 0x80 ≤ row.first := by decide
  have sorted : leadClasses.Pairwise fun row next => row.last < next.first := by decide
  rw [enter, if_neg (UInt8.not_lt.mpr (UInt8.le_trans (beyond row member) first)),
    find?_eq_some_of_pairwise sorted member first last]

/-! ## Octets inside a character -/

/-- The octet that carries the low six bits of a number on. -/
def continuation (n : Nat) : UInt8 :=
  UInt8.ofNat (n % 64 + 0x80)

theorem toNat_continuation (n : Nat) : (continuation n).toNat = n % 64 + 0x80 := by
  have bound : n % 64 < 64 := Nat.mod_lt n (by decide)
  rw [continuation, UInt8.toNat_ofNat']
  omega

theorem continuation_mod (n : Nat) : (continuation n).toNat % 64 = n % 64 := by
  rw [toNat_continuation]
  omega

theorem le_continuation (n : Nat) : 0x80 ≤ continuation n := by
  rw [UInt8.le_iff_toNat_le, toNat_continuation]
  exact Nat.le_add_left _ _

theorem continuation_le (n : Nat) : continuation n ≤ 0xBF := by
  have bound : n % 64 < 64 := Nat.mod_lt n (by decide)
  rw [UInt8.le_iff_toNat_le, toNat_continuation]
  exact Nat.add_le_add_right (Nat.le_of_lt_succ bound) _

theorem run_cons (state : Option Pending) (b : UInt8) (bs : Octets) :
    run state (b :: bs) = (step state b).1 ++ run (step state b).2 bs := by
  cases state <;> rfl

/-- The last octet of a character completes it. -/
theorem run_last {low high : UInt8} {n : Nat} (reaches : low ≤ continuation n)
    (within : continuation n ≤ high) (bits : Nat) (bs : Octets) :
    run (some ⟨bits, low, high, 0⟩) (continuation n :: bs) =
      Char.ofNat (bits * 64 + n % 64) :: run none bs := by
  rw [run_cons, step, Pending.continue, if_pos (by simp [reaches, within]), continuation_mod]
  rfl

/-- Any other octet of a character adds its bits. -/
theorem run_more {low high : UInt8} {n : Nat} (reaches : low ≤ continuation n)
    (within : continuation n ≤ high) (bits more : Nat) (bs : Octets) :
    run (some ⟨bits, low, high, more + 1⟩) (continuation n :: bs) =
      run (some ⟨bits * 64 + n % 64, 0x80, 0xBF, more⟩) bs := by
  rw [run_cons, step, Pending.continue, if_pos (by simp [reaches, within]), continuation_mod]
  rfl

/-! ## Whole characters -/

/-- A row of the table by which a character is read: it holds the lead octet, and its range
holds the continuation after that. -/
structure LeadClass.Reads (row : LeadClass) (lead n : Nat) : Prop where
  member : row ∈ leadClasses
  first : row.first.toNat ≤ lead
  last : lead ≤ row.last.toNat
  low : row.low ≤ continuation n
  high : continuation n ≤ row.high

theorem LeadClass.Reads.of_toNat {row : LeadClass} (member : row ∈ leadClasses) {lead n : Nat}
    (bounds : row.first.toNat ≤ lead ∧ lead ≤ row.last.toNat ∧
      row.low.toNat ≤ n % 64 + 0x80 ∧ n % 64 + 0x80 ≤ row.high.toNat) :
    row.Reads lead n := by
  rcases bounds with ⟨first, last, low, high⟩
  constructor
  · exact member
  · exact first
  · exact last
  · rwa [UInt8.le_iff_toNat_le, toNat_continuation]
  · rwa [UInt8.le_iff_toNat_le, toNat_continuation]

theorem run_lead {row : LeadClass} {lead n : Nat} (reads : row.Reads lead n) (bs : Octets) :
    run none (UInt8.ofNat lead :: bs) =
      run (some ⟨lead % row.payload, row.low, row.high, row.more⟩) bs := by
  have isLead : (UInt8.ofNat lead).toNat = lead := by
    have octet : lead < 256 := Nat.lt_of_le_of_lt reads.last row.last.toNat_lt
    rw [UInt8.toNat_ofNat', Nat.mod_eq_of_lt octet]
  have first : row.first ≤ UInt8.ofNat lead := by
    rw [UInt8.le_iff_toNat_le, isLead]
    exact reads.first
  have last : UInt8.ofNat lead ≤ row.last := by
    rw [UInt8.le_iff_toNat_le, isLead]
    exact reads.last
  rw [run_cons, step, enter_of_mem reads.member first last, isLead]
  rfl

/-- The row of a character that is written in two octets. -/
theorem exists_reads_two {v : Nat} (least : 0x80 ≤ v) (most : v < 0x800) :
    ∃ row : LeadClass, row.Reads (v / 64 % 32 + 0xC0) v ∧ row.payload = 32 ∧ row.more = 0 := by
  refine ⟨leadClasses[0], .of_toNat (List.getElem_mem _) ?_, rfl, rfl⟩
  change 0xC2 ≤ _ ∧ _ ≤ 0xDF ∧ 0x80 ≤ _ ∧ _ ≤ 0xBF
  omega

/-- The row of a character that is written in three octets.  The table has two rows of this
length with a range of their own, one against overlong forms and one against surrogates. -/
theorem exists_reads_three {v : Nat} (least : 0x800 ≤ v) (most : v < 0x10000)
    (scalar : v < 0xD800 ∨ 0xE000 ≤ v) :
    ∃ row : LeadClass, row.Reads (v / 4096 % 16 + 0xE0) (v / 64) ∧ row.payload = 16 ∧
      row.more = 1 := by
  by_cases first : v < 0x1000
  · refine ⟨leadClasses[1], .of_toNat (List.getElem_mem _) ?_, rfl, rfl⟩
    change 0xE0 ≤ _ ∧ _ ≤ 0xE0 ∧ 0xA0 ≤ _ ∧ _ ≤ 0xBF
    omega
  by_cases second : v < 0xD000
  · refine ⟨leadClasses[2], .of_toNat (List.getElem_mem _) ?_, rfl, rfl⟩
    change 0xE1 ≤ _ ∧ _ ≤ 0xEC ∧ 0x80 ≤ _ ∧ _ ≤ 0xBF
    omega
  by_cases third : v < 0xD800
  · refine ⟨leadClasses[3], .of_toNat (List.getElem_mem _) ?_, rfl, rfl⟩
    change 0xED ≤ _ ∧ _ ≤ 0xED ∧ 0x80 ≤ _ ∧ _ ≤ 0x9F
    omega
  · refine ⟨leadClasses[4], .of_toNat (List.getElem_mem _) ?_, rfl, rfl⟩
    change 0xEE ≤ _ ∧ _ ≤ 0xEF ∧ 0x80 ≤ _ ∧ _ ≤ 0xBF
    omega

/-- The row of a character that is written in four octets. -/
theorem exists_reads_four {v : Nat} (least : 0x10000 ≤ v) (most : v < 0x110000) :
    ∃ row : LeadClass, row.Reads (v / 262144 % 8 + 0xF0) (v / 4096) ∧ row.payload = 8 ∧
      row.more = 2 := by
  by_cases first : v < 0x40000
  · refine ⟨leadClasses[5], .of_toNat (List.getElem_mem _) ?_, rfl, rfl⟩
    change 0xF0 ≤ _ ∧ _ ≤ 0xF0 ∧ 0x90 ≤ _ ∧ _ ≤ 0xBF
    omega
  by_cases second : v < 0x100000
  · refine ⟨leadClasses[6], .of_toNat (List.getElem_mem _) ?_, rfl, rfl⟩
    change 0xF1 ≤ _ ∧ _ ≤ 0xF3 ∧ 0x80 ≤ _ ∧ _ ≤ 0xBF
    omega
  · refine ⟨leadClasses[7], .of_toNat (List.getElem_mem _) ?_, rfl, rfl⟩
    change 0xF4 ≤ _ ∧ _ ≤ 0xF4 ∧ 0x80 ≤ _ ∧ _ ≤ 0x8F
    omega

/-- A written character is read back, and the machine is between characters again. -/
theorem run_utf8EncodeChar_append (c : Char) (bs : Octets) :
    run none (String.utf8EncodeChar c ++ bs) = c :: run none bs := by
  have scalar : c.val.toNat < 0xD800 ∨ 0xDFFF < c.val.toNat ∧ c.val.toNat < 0x110000 := c.valid
  have itself {n : Nat} (same : n = c.val.toNat) : Char.ofNat n = c := by
    rw [same]
    exact Char.ofNat_toNat c
  fun_cases String.utf8EncodeChar c with
  | case1 v one =>
      have octet : (UInt8.ofNat v).toNat = v := by
        rw [UInt8.toNat_ofNat']
        exact Nat.mod_eq_of_lt (Nat.lt_of_le_of_lt one (by decide))
      have ascii : UInt8.ofNat v < 0x80 := by
        rw [UInt8.lt_iff_toNat_lt, octet]
        exact Nat.lt_succ_of_le one
      change run none (UInt8.ofNat v :: bs) = c :: run none bs
      rw [run_cons, step, enter, if_pos ascii, octet, itself (show v = c.val.toNat from rfl)]
      rfl
  | case2 v one two =>
      obtain ⟨row, reads, payload, more⟩ :=
        exists_reads_two (Nat.lt_of_not_le one) (Nat.lt_succ_of_le two)
      have bits : (v / 64 % 32 + 0xC0) % 32 * 64 + v % 64 = v := by omega
      change run none (UInt8.ofNat (v / 64 % 32 + 0xC0) :: continuation v :: bs) = _
      rw [run_lead reads, payload, more, run_last reads.low reads.high, itself bits]
  | case3 v one two three =>
      obtain ⟨row, reads, payload, more⟩ :=
        exists_reads_three (Nat.lt_of_not_le two) (Nat.lt_succ_of_le three) (by omega)
      have bits :
          ((v / 4096 % 16 + 0xE0) % 16 * 64 + v / 64 % 64) * 64 + v % 64 = v := by omega
      change run none (UInt8.ofNat (v / 4096 % 16 + 0xE0) :: continuation (v / 64) ::
        continuation v :: bs) = _
      rw [run_lead reads, payload, more, run_more reads.low reads.high,
        run_last (le_continuation v) (continuation_le v), itself bits]
  | case4 v one two three =>
      have bound : v < 0x110000 := by omega
      rcases exists_reads_four (Nat.lt_of_not_le three) bound with ⟨row, reads, payload, more⟩
      have bits : (((v / 262144 % 8 + 0xF0) % 8 * 64 + v / 4096 % 64) * 64 + v / 64 % 64) * 64 +
          v % 64 = v := by omega
      change run none (UInt8.ofNat (v / 262144 % 8 + 0xF0) :: continuation (v / 4096) ::
        continuation (v / 64) :: continuation v :: bs) = _
      rw [run_lead reads, payload, more, run_more reads.low reads.high,
        run_more (le_continuation _) (continuation_le _),
        run_last (le_continuation v) (continuation_le v), itself bits]

/-- Written text is read back. -/
@[simp]
theorem lossy_encode (s : String) : lossy (encode s) = s := by
  have characters (cs : List Char) : run none (cs.flatMap String.utf8EncodeChar) = cs := by
    induction cs with
    | nil => rfl
    | cons c cs ih => rw [List.flatMap_cons, run_utf8EncodeChar_append, ih]
  rw [lossy, encode, characters, String.ofList_toList]

end Lldpdu.Text
