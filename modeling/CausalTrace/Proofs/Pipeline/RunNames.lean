import CausalTrace.Proofs.Storage.Paths
import CausalTrace.Proofs.Text.Figures
import CausalTrace.RunDirectory

/-!
# Names of run directories

The name of a run directory is written in letters, digits and a few marks, whatever the clock shows,
so it can be given to a directory, and the higher its number the longer it is.
-/

namespace CausalTrace

/-- A text of characters that take one byte each and may stand in a name. -/
def Tame (text : String) : Prop :=
  ∀ c ∈ text.toList, c.utf8Size = 1 ∧ c ≠ '/' ∧ c ≠ '\x00'

instance (text : String) : Decidable (Tame text) :=
  List.decidableBAll (fun c : Char => c.utf8Size = 1 ∧ c ≠ '/' ∧ c ≠ '\x00') text.toList

/-- Tame texts can be joined. -/
theorem Tame.append {left right : String} (first : Tame left) (second : Tame right) :
    Tame (left ++ right) := by
  intro c present
  rw [String.toList_append] at present
  rcases List.mem_append.1 present with before | behind
  · exact first c before
  · exact second c behind

/-- Every character takes one byte. -/
theorem Tame.size {text : String} (tame : Tame text) : text.utf8ByteSize = text.toList.length := by
  have each (cs : List Char) (bytes : ∀ c ∈ cs, c.utf8Size = 1) :
      (String.ofList cs).utf8ByteSize = cs.length := by
    induction cs with
    | nil => rfl
    | cons c rest ih =>
      have own := bytes c List.mem_cons_self
      have others := ih fun other later => bytes other (List.mem_cons_of_mem c later)
      rw [String.ofList_cons, String.utf8ByteSize_append, String.utf8ByteSize_singleton, own,
        others, List.length_cons, Nat.add_comm]
  rw [← each text.toList fun c present => (tame c present).1, String.ofList_toList]

namespace Decimal

/-- The next number has at least as many figures. -/
theorem length_figures_le_succ (n : Nat) : (figures n).length ≤ (figures (n + 1)).length := by
  induction n using figures.induct with
  | case1 n small =>
    rw [figures_of_lt small]
    exact List.length_pos_iff.2 (figures_ne_nil _)
  | case2 n large ih =>
    have further : ¬ n + 1 < 10 := by omega
    rw [figures_of_not_lt large, figures_of_not_lt further, List.length_append, List.length_append]
    rcases (by omega : (n + 1) / 10 = n / 10 ∨ (n + 1) / 10 = n / 10 + 1) with same | next
    · rw [same]
      exact Nat.le_refl _
    · rw [next]
      exact Nat.add_le_add_right ih 1

/-- Larger numbers do not have fewer figures. -/
theorem length_figures_mono {m n : Nat} (less : m ≤ n) :
    (figures m).length ≤ (figures n).length := by
  induction less with
  | refl => exact Nat.le_refl _
  | step _ ih => exact Nat.le_trans ih (length_figures_le_succ _)

/-- A number below a power of ten has no more figures than the power has. -/
theorem length_figures_le {n places : Nat} (small : n < 10 ^ (places + 1)) :
    (figures n).length ≤ places + 1 := by
  induction places generalizing n with
  | zero => rw [figures_of_lt (by simpa using small)]; exact Nat.le_refl 1
  | succ places ih =>
    by_cases digit : n < 10
    · rw [figures_of_lt digit]
      exact Nat.succ_pos _
    · have higher : n / 10 < 10 ^ (places + 1) := by
        rw [Nat.pow_succ] at small
        omega
      rw [figures_of_not_lt digit, List.length_append]
      exact Nat.add_le_add_right (ih higher) 1

/-- Figures are tame. -/
theorem tame_render (n : Nat) : Tame (render n) := by
  intro c present
  rw [toList_render] at present
  obtain ⟨figure, among, rfl⟩ := List.mem_map.1 present
  exact (by decide : ∀ figure < 10, figure.digitChar.utf8Size = 1 ∧ figure.digitChar ≠ '/' ∧
    figure.digitChar ≠ '\x00') figure (lt_ten_of_mem_figures among)

/-- A number takes a byte for each figure. -/
theorem size_render (n : Nat) : (render n).utf8ByteSize = (figures n).length := by
  rw [(tame_render n).size, toList_render, List.length_map]

/-- Zeros in front of a number are tame. -/
theorem tame_padded (width n : Nat) : Tame (padded width n) := by
  refine Tame.append (fun c present => ?_) (tame_render n)
  rw [String.toList_ofList] at present
  rw [List.eq_of_mem_replicate present]
  decide

/-- A padded number takes no more bytes than its padding and its figures. -/
theorem size_padded_le (width places : Nat) {n : Nat} (small : n < 10 ^ (places + 1)) :
    (padded width n).utf8ByteSize ≤ width + (places + 1) := by
  have shown := length_figures_le small
  rw [(tame_padded width n).size, padded, String.toList_append, List.length_append,
    String.toList_ofList, List.length_replicate, toList_render, List.length_map]
  omega

end Decimal

namespace Calendar

open Decimal

/-- A year is tame, also one before the year zero. -/
theorem tame_renderYear (year : Int) : Tame (renderYear year) := by
  unfold renderYear
  split
  · exact tame_padded 4 _
  · refine Tame.append ?_ (tame_padded 4 _)
    split <;> decide

/-- A date and a time with tame parts are tame. -/
theorem tame_renderParts (time : Int) {inDate between inTime : String} (date : Tame inDate)
    (middle : Tame between) (clock : Tame inTime) :
    Tame (renderParts time inDate between inTime) := by
  have dot : Tame "." := by decide
  exact ((((((((((((tame_renderYear _).append date).append (tame_padded 2 _)).append date).append
    (tame_padded 2 _)).append middle).append (tame_padded 2 _)).append clock).append
    (tame_padded 2 _)).append clock).append (tame_padded 2 _)).append dot).append (tame_padded 3 _)

/-- The parts of a date are small numbers for every point in time that a clock can show. -/
theorem date_bounds {days : Int} (low : -10 ^ 12 < days) (high : days < 10 ^ 12) :
    (date days).year.natAbs < 10 ^ 12 ∧ (date days).month < 10 ^ 4 ∧ (date days).day < 10 ^ 6 := by
  simp only [date]
  have era : ((days + 719468) % 146097).toNat < 146097 := by omega
  generalize ((days + 719468) % 146097).toNat = dayOfEra at era
  refine ⟨?_, ?_, ?_⟩
  · split <;> split <;> omega
  · split <;> omega
  · omega

/-- Nor is the text that is written of them long. -/
theorem size_renderParts_le {time : Int} (low : -2 ^ 63 ≤ time) (high : time < 2 ^ 63) :
    (renderParts time "" "T" "").utf8ByteSize ≤ 80 := by
  obtain ⟨year, month, day⟩ := date_bounds
    (show -10 ^ 12 < time / dayLength by rw [dayLength]; omega)
    (show time / dayLength < 10 ^ 12 by rw [dayLength]; omega)
  -- A clock of 64 bits shows days far within these bounds, so each part has few figures.
  have rest : (time % dayLength).toNat < 10 ^ 8 := by rw [dayLength]; omega
  have years : (renderYear (date (time / dayLength)).year).utf8ByteSize ≤ 17 := by
    unfold renderYear
    split
    · have own := size_padded_le 4 11
        (show (date (time / dayLength)).year.toNat < 10 ^ (11 + 1) by omega)
      omega
    · have own := size_padded_le 4 11 year
      have sign : (if (date (time / dayLength)).year < 0 then "-" else "+").utf8ByteSize = 1 := by
        split <;> rfl
      rw [String.utf8ByteSize_append, sign]
      omega
  have months := size_padded_le 2 3 month
  have days := size_padded_le 2 5 day
  have hours : (padded 2 ((time % dayLength).toNat / 3600000)).utf8ByteSize ≤ 2 + (1 + 1) :=
    size_padded_le 2 1 (by omega)
  have minutes : (padded 2 ((time % dayLength).toNat / 60000 % 60)).utf8ByteSize ≤ 2 + (1 + 1) :=
    size_padded_le 2 1 (by omega)
  have seconds : (padded 2 ((time % dayLength).toNat / 1000 % 60)).utf8ByteSize ≤ 2 + (1 + 1) :=
    size_padded_le 2 1 (by omega)
  have fractions : (padded 3 ((time % dayLength).toNat % 1000)).utf8ByteSize ≤ 3 + (2 + 1) :=
    size_padded_le 3 2 (by omega)
  have mark : ("T" : String).utf8ByteSize = 1 := rfl
  have dot : ("." : String).utf8ByteSize = 1 := rfl
  simp only [renderParts, String.utf8ByteSize_append, String.utf8ByteSize_empty]
  omega

end Calendar

namespace RunDirectory

/-- The path of one of the names that are tried. -/
def candidate (parent name : String) (number : Nat) : String :=
  Path.join parent (numbered name number)

/-- The name of a run directory is tame, whatever the clock shows. -/
theorem tame_name (clock : Int64) : Tame (name clock) := by
  have mark : Tame mark := by decide
  have nothing : Tame "" := by decide
  have between : Tame "T" := by decide
  have zone : Tame "Z" := by decide
  exact (mark.append (Calendar.tame_renderParts _ nothing between nothing)).append zone

/-- The name of a run directory takes ninety bytes at most. -/
theorem size_name_le (clock : Int64) : (name clock).utf8ByteSize ≤ 90 := by
  have own := Calendar.size_renderParts_le clock.le_toInt clock.toInt_lt
  have mark : mark.utf8ByteSize = 9 := rfl
  have zone : ("Z" : String).utf8ByteSize = 1 := rfl
  rw [name, String.utf8ByteSize_append, String.utf8ByteSize_append, mark, zone]
  omega

/-- What is put behind a name. -/
theorem numbered_eq (name : String) (number : Nat) :
    ∃ behind, numbered name number = name ++ behind ∧ Tame behind ∧
      behind.utf8ByteSize = if number = 0 then 0 else 1 + (Decimal.figures number).length := by
  unfold numbered
  split
  next => exact ⟨"", by simp, by decide, rfl⟩
  next =>
    have dash : Tame "-" := by decide
    have one : ("-" : String).utf8ByteSize = 1 := rfl
    refine ⟨"-" ++ Decimal.render number, by rw [String.append_assoc],
      dash.append (Decimal.tame_render number), ?_⟩
    rw [String.utf8ByteSize_append, one, Decimal.size_render]

/-- Higher numbers do not make shorter names. -/
theorem size_numbered_mono {smaller number : Nat} (less : smaller ≤ number) (name : String) :
    (numbered name smaller).utf8ByteSize ≤ (numbered name number).utf8ByteSize := by
  obtain ⟨behind, eq, -, size⟩ := numbered_eq name smaller
  obtain ⟨longer, eq', -, size'⟩ := numbered_eq name number
  have figures := Decimal.length_figures_mono less
  rw [eq, eq', String.utf8ByteSize_append, String.utf8ByteSize_append, size, size']
  split <;> split <;> omega

/-- A name with a higher number has no shorter path. -/
theorem size_candidate_mono {smaller number : Nat} (less : smaller ≤ number)
    (parent name : String) :
    (candidate parent name smaller).utf8ByteSize ≤ (candidate parent name number).utf8ByteSize :=
  Path.size_join_le (size_numbered_mono less name) parent

/-- Every name that is tried can be given to a directory, whatever the clock shows. -/
theorem proper_numbered (clock : Int64) {number : Nat} (few : number < names) :
    Path.Proper (numbered (name clock) number) := by
  obtain ⟨behind, eq, tame, size⟩ := numbered_eq (name clock) number
  have whole : Tame (numbered (name clock) number) := eq ▸ (tame_name clock).append tame
  obtain ⟨rest, starts⟩ : ∃ rest, (numbered (name clock) number).toList = 'b' :: rest := by
    refine ⟨"ustrace-".toList ++ ((Calendar.renderParts clock.toInt "" "T" "").toList
      ++ ("Z".toList ++ behind.toList)), ?_⟩
    rw [eq, name, String.toList_append, String.toList_append, String.toList_append,
      List.append_assoc, List.append_assoc]
    rfl
  have apart (other : String) (otherwise : other.toList.head? ≠ some 'b') :
      numbered (name clock) number ≠ other := by
    rintro rfl
    exact otherwise (by rw [starts]; rfl)
  refine ⟨apart _ (by decide), fun slash => (whole _ slash).2.1 rfl,
    fun marked => (whole _ marked).2.2 rfl, apart _ (by decide), apart _ (by decide), ?_⟩
  have figures : (Decimal.figures number).length ≤ 3 :=
    Decimal.length_figures_le (by rw [names] at few; omega)
  have own := size_name_le clock
  rw [eq, String.utf8ByteSize_append, size, FileFault.nameLimit]
  split <;> omega

end RunDirectory

end CausalTrace
