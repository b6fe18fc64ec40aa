import DfuSeBootloader.Iap.Commands

/-!
# What the IAP functions do to the flash

What they touch on a ROM that is confined, and what they write on a ROM that programs prepared sectors.
-/

namespace DfuSeBootloader.Iap
open Memory

variable {ρ : Type} {P : Platform ρ} {cmd : IapCommand} {sector : Nat} {r r' : ρ}
  {address : UInt32} {m : Nat → UInt8}

/-! ## Confinement -/

theorem changed_ExecuteCommand {S : Set Nat}
    (h : ∀ r, Changed (P.flash r) (P.flash (P.iap_entry cmd r).2) ⊆ S) (r : ρ) :
    Changed (P.flash r) (P.flash (ExecuteCommand P cmd r).2) ⊆ S := by
  refine ExecuteCommand_induction (I := fun r' => Changed (P.flash r) (P.flash r') ⊆ S)
    (fun r' hr' => ?_) (by rw [changed_self]; exact Set.empty_subset _)
  exact (changed_trans _ (P.flash r') _).trans (Set.union_subset hr' (h r'))

theorem flash_prepare (hP : Confined P) (first last : Nat) (r : ρ) :
    P.flash (ExecuteCommand P (.CMD_PREPARE_SECTORS first last) r).2 = P.flash r :=
  ExecuteCommand_induction (I := fun r' => P.flash r' = P.flash r)
    (fun r' hr' => (hP.prepare first last r').trans hr') rfl

/-- Of the two commands only the second one touches the flash. -/
theorem changed_prepareThen (hP : Confined P) {S : Set Nat}
    (h : ∀ r, Changed (P.flash r) (P.flash (P.iap_entry cmd r).2) ⊆ S) :
    Changed (P.flash r) (P.flash (prepareThen P sector cmd r).2) ⊆ S := by
  have hprepare := flash_prepare hP sector sector r
  simp only [prepareThen]
  split
  · rw [hprepare, changed_self]
    exact Set.empty_subset _
  · rw [← hprepare]
    split <;> exact changed_ExecuteCommand h _

theorem changed_iap_write (hP : Confined P) {count : Nat} :
    Changed (P.flash r) (P.flash (iap_write P address count m r).2) ⊆
      {a | address.toNat ≤ a ∧ a < address.toNat + count} := by
  rw [iap_write_eq]
  exact changed_prepareThen hP fun r' => hP.copy address m count (P.SystemCoreClock / 1000) r'

theorem changed_iap_erase (hP : Confined P) :
    Changed (P.flash r) (P.flash (iap_erase P address r).2) ⊆
      {a | ∃ i, InSector i address.toNat ∧ InSector i a} := by
  rw [iap_erase_eq]
  refine changed_prepareThen hP fun r' a ha => ?_
  obtain ⟨i, hfirst, hlast, hi⟩ := hP.erase _ _ _ r' ha
  obtain rfl : i = sectorOf address.toNat := by
    rw [sector_by_address_eq] at hfirst hlast
    omega
  refine ⟨_, inSector_sectorOf ?_, hi⟩
  -- behind the flash there is no such sector
  by_contra hout
  have := le_sectorOf (Nat.le_of_not_lt hout)
  have := (inSector_iff.mp hi).1
  omega

/-! ## Programming -/

section Programs

variable {prepared : ρ → Nat → Prop} (hP : Programs P prepared)
include hP

theorem Programs.retry (h : Relation.ReflTransGen (Retry P cmd) r r') :
    P.flash r' = P.flash r ∧ ∀ s, prepared r s → prepared r' s := by
  induction h with
  | refl => exact ⟨rfl, fun _ hs => hs⟩
  | tail _ hstep ih =>
      obtain ⟨hbusy, rfl⟩ := hstep
      obtain ⟨hflash, hprep⟩ := hP.busy cmd _ hbusy
      exact ⟨hflash.trans ih.1, fun s hs => hprep s (ih.2 s hs)⟩

/-- A sector of the flash is prepared when the last command is sent for the last time. -/
theorem Programs.prepareThen (hsector : sector < 30) (cmd : IapCommand) (r : ρ) :
    ∃ r', P.flash r' = P.flash r ∧ prepared r' sector ∧ (P.iap_entry cmd r').1 ≠ .STATUS_BUSY ∧
      Iap.prepareThen P sector cmd r =
        (decide ((P.iap_entry cmd r').1 = .STATUS_CMD_SUCCESS), (P.iap_entry cmd r').2) := by
  obtain ⟨r₁, hretry₁, hbusy₁, heq₁⟩ :=
    ExecuteCommand_spec P (.CMD_PREPARE_SECTORS sector sector) r
  obtain ⟨hflash₁, -⟩ := hP.retry hretry₁
  obtain ⟨hok, hflash₂, hprep⟩ := hP.prepare sector r₁ hsector hbusy₁
  cases hst : P.iap_entry (.CMD_PREPARE_SECTORS sector sector) r₁ with
  | mk st r₂ =>
      rw [hst] at heq₁ hok hflash₂ hprep
      obtain rfl : st = .STATUS_CMD_SUCCESS := hok
      obtain ⟨r₃, hretry₃, hbusy₃, heq₃⟩ := ExecuteCommand_spec P cmd r₂
      obtain ⟨hflash₃, hkeep⟩ := hP.retry hretry₃
      refine ⟨r₃, hflash₃.trans (hflash₂.trans hflash₁), hkeep sector hprep, hbusy₃, ?_⟩
      rw [prepareThen_prepared heq₁, heq₃]

/-- A block can be programmed wherever it is aligned, inside the flash and erased. -/
theorem iap_write_block (hal : address.toNat % 512 = 0) (hend : address.toNat + 512 ≤ flashEnd)
    (herased : ∀ a, address.toNat ≤ a → a < address.toNat + 512 → P.flash r a = 0xFF) :
    (iap_write P address 512 m r).1 = true ∧
      P.flash (iap_write P address 512 m r).2 =
        fill (P.flash r) address.toNat 512 m := by
  have hsector : sector_by_address address < 30 := by
    rw [sector_by_address_eq]
    exact (inSector_iff.mp (inSector_sectorOf (by omega))).1
  obtain ⟨r', hflash, hprep, hbusy, heq⟩ := hP.prepareThen hsector
    (.CMD_COPY_RAM_TO_FLASH address m 512 (P.SystemCoreClock / 1000)) r
  have hblock : ∀ s a, InSector s a → address.toNat ≤ a → a < address.toNat + 512 →
      prepared r' s := by
    intro s a hs hlo hhi
    rw [hs.eq, sectorOf_block hal hlo hhi, ← sector_by_address_eq]
    exact hprep
  have hblank : ∀ a, address.toNat ≤ a → a < address.toNat + 512 → P.flash r' a = 0xFF := by
    intro a hlo hhi
    rw [hflash]
    exact herased a hlo hhi
  obtain ⟨hok, hcopy⟩ := hP.copy address m 512 (P.SystemCoreClock / 1000) r' (by omega)
    (by decide) (by decide) hend hblock hblank hbusy
  rw [iap_write_eq, heq, hok, hcopy, hflash]
  exact ⟨rfl, rfl⟩

end Programs

/-! ## Erasing -/

/-- The flash `m` with some sectors erased. -/
def erasedIn (sectors : List Nat) (m : Nat → UInt8) : Nat → UInt8 :=
  fun a => if sectorOf a ∈ sectors then 0xFF else m a

theorem erasedIn_nil (m : Nat → UInt8) : erasedIn [] m = m := by
  funext a
  simp [erasedIn]

theorem erasedIn_append (ss ss' : List Nat) (m : Nat → UInt8) :
    erasedIn (ss ++ ss') m = erasedIn ss' (erasedIn ss m) := by
  funext a
  simp only [erasedIn, List.mem_append]
  by_cases h : sectorOf a ∈ ss' <;> simp [h]

theorem Erases.eq_erasedIn {s : Nat} {m m' : Nat → UInt8} (hs : s < 30) (h : Erases s s m m') :
    m' = erasedIn [s] m := by
  funext a
  by_cases ha : sectorOf a = s
  · subst ha
    have hin : a < flashEnd := Nat.lt_of_not_le fun hout => by
      have := le_sectorOf hout
      omega
    rw [erasedIn, if_pos (List.mem_singleton.mpr rfl)]
    exact h.erased _ a (Nat.le_refl _) (Nat.le_refl _) (inSector_sectorOf hin)
  · rw [erasedIn, if_neg (by simpa using ha)]
    refine h.other a fun i hlo hhi hi => ha ?_
    rw [← hi.eq]
    omega

/-- The sector of any address of the flash can be erased. -/
theorem iap_erase_sector {prepared : ρ → Nat → Prop} (hP : Reflashes P prepared)
    (hin : address.toNat < flashEnd) :
    (iap_erase P address r).1 = true ∧
      P.flash (iap_erase P address r).2 = erasedIn [sectorOf address.toNat] (P.flash r) := by
  have hsector : sectorOf address.toNat < 30 := (inSector_iff.mp (inSector_sectorOf hin)).1
  obtain ⟨r', hflash, hprep, hbusy, heq⟩ := hP.prepareThen hsector
    (.CMD_ERASE_SECTORS (sectorOf address.toNat) (sectorOf address.toNat)
      (P.SystemCoreClock / 1000)) r
  obtain ⟨hok, herases⟩ := hP.erase _ (P.SystemCoreClock / 1000) r' hsector hprep hbusy
  rw [iap_erase_eq, sector_by_address_eq, heq, hok, ← hflash]
  exact ⟨rfl, herases.eq_erasedIn hsector⟩

end DfuSeBootloader.Iap
