import Outlier.Hostname.International
import Outlier.Proofs.Activity
import Outlier.Proofs.Text.Joined

/-! International names come out in ASCII, whatever they are written with. -/
namespace Outlier

namespace Punycode
variable {c : Char}

theorem isAscii_digitChar : ∀ d < 36, isAscii (digitChar d) = true := by decide

theorem isAscii_of_mem_digits {bias place n : Nat} (h : c ∈ digits bias place n) :
    isAscii c = true := by
  have hle (place : Nat) : threshold place bias ≤ 26 := threshold_le place bias
  fun_induction digits bias place n with
  | case1 place n t ht =>
    have ht' : t ≤ 26 := hle place
    exact List.mem_singleton.mp h ▸ isAscii_digitChar n (by omega)
  | case2 place n t ht ih =>
    rcases List.mem_cons.mp h with rfl | h
    · have ht' : t ≤ 26 := hle place
      have hmod : (n - t) % (36 - t) < 36 - t := Nat.mod_lt _ (by omega)
      exact isAscii_digitChar _ (by omega)
    · exact ih h

/-- All that has been written is ASCII. -/
def Progress.IsAscii (p : Progress) : Prop := ∀ c ∈ p.written, isAscii c = true

theorem Progress.IsAscii.pass {p : Progress} (h : p.IsAscii) (ascii due : Nat) (c : Char) :
    (Punycode.pass ascii due p c).IsAscii := by
  unfold Punycode.pass
  split
  · exact h
  split
  · intro d hd
    rcases List.mem_append.mp hd with hd | hd
    · exact h d hd
    · exact isAscii_of_mem_digits hd
  · exact h

theorem Progress.IsAscii.foldl_pass {p : Progress} (h : p.IsAscii) (ascii due : Nat)
    (s : List Char) : (s.foldl (Punycode.pass ascii due) p).IsAscii := by
  induction s generalizing p with
  | nil => exact h
  | cons c s ih => exact ih (h.pass ascii due c)

theorem Progress.IsAscii.insertions {p : Progress} (h : p.IsAscii) (s : List Char) (ascii : Nat)
    (due : List Nat) (next : Nat) : (Punycode.insertions s ascii due next p).IsAscii := by
  induction due generalizing p next with
  | nil => exact h
  | cons code due ih =>
    rw [Punycode.insertions]
    let walked : Progress := { p with distance := p.distance + (code - next) * (p.count + 1) }
    have hwalked : walked.IsAscii := h
    refine ih (fun c hc => ?_) _
    exact hwalked.foldl_pass ascii code s c hc

theorem isAscii_of_mem_encode {s : List Char} (h : c ∈ encode s) : isAscii c = true := by
  unfold encode at h
  rcases List.mem_append.mp h with h | h
  · rcases List.mem_append.mp h with h | h
    · exact (List.mem_filter.mp h).2
    · split at h
      · cases h
      · rw [List.mem_singleton.mp h]
        rfl
  · have hnone : Progress.IsAscii ⟨[], 0, 72, (s.filter isAscii).length⟩ := nofun
    exact hnone.insertions s _ _ _ c h

end Punycode

namespace Hostname
variable {c : Char}

theorem isAscii_writeLabel {label written : List Char} (h : writeLabel label = .ok written)
    (hc : c ∈ written) : isAscii c = true := by
  unfold writeLabel at h
  split at h
  next hall =>
    obtain ⟨_, -, h⟩ := ok_of_bind h
    obtain ⟨_, hw, h⟩ := ok_of_bind h
    cases hw
    obtain ⟨_, -, h⟩ := ok_of_bind h
    cases h
    exact List.all_eq_true.mp hall c hc
  next =>
    obtain ⟨_, -, h⟩ := ok_of_bind h
    obtain ⟨_, hw, h⟩ := ok_of_bind h
    cases hw
    obtain ⟨_, -, h⟩ := ok_of_bind h
    cases h
    rcases List.mem_append.mp hc with hc | hc
    · exact List.all_eq_true.mp (rfl : lead.all isAscii = true) c hc
    · exact Punycode.isAscii_of_mem_encode hc

theorem isAscii_mapM_writeLabel {labels written : List (List Char)}
    (h : labels.mapM writeLabel = .ok written) :
    ∀ label ∈ written, ∀ c ∈ label, isAscii c = true := by
  induction labels generalizing written with
  | nil => cases h; exact nofun
  | cons label labels ih =>
    rw [List.mapM_cons] at h
    obtain ⟨first, hfirst, h⟩ := ok_of_bind h
    obtain ⟨others, hothers, h⟩ := ok_of_bind h
    cases h
    exact List.forall_mem_cons.mpr ⟨fun c => isAscii_writeLabel hfirst, ih hothers⟩

theorem isAscii_joined {labels : List (List Char)}
    (h : ∀ label ∈ labels, ∀ c ∈ label, isAscii c = true) (dotted : Bool)
    (hc : c ∈ joined labels dotted) : isAscii c = true := by
  rcases of_mem_intercalate hc with rfl | ⟨label, hl, hlabel⟩
  · rfl
  rcases List.mem_append.mp hl with hl | hl
  · exact h label hl c hlabel
  · cases dotted with
    | false => cases hl
    | true =>
      rw [List.mem_singleton.mp hl] at hlabel
      cases hlabel

/-- A name is written in ASCII. -/
theorem isAscii_write {name written : List Char} (h : write name = .ok written) (hc : c ∈ written) :
    isAscii c = true := by
  obtain ⟨⟨labels, dotted⟩, -, h⟩ := ok_of_bind h
  obtain ⟨out, hout, h⟩ := ok_of_bind h
  obtain ⟨_, -, h⟩ := ok_of_bind h
  cases h
  exact isAscii_joined (isAscii_mapM_writeLabel hout) dotted hc

end Hostname
end Outlier
