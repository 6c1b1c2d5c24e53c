import DramScheduler.Crossbar.Port
import DramScheduler.Proofs.Checked.Arithmetic
import DramScheduler.Proofs.Config.Acceptance

/-!
# Widths that can be converted

Data is converted between a port and the controller by taking several words of the narrower side for
one of the wider. How many is the ratio of the two widths, which has to be a power of two; the
widths themselves need not be. Which side is the wider one is found twice, once when the widths are
checked and once when the ratio is computed, and each time the wider is divided by the narrower. The
check has to come first, because a width can be zero.

## Main results

* `PortConfig.convertible_iff` — which widths can be converted;
* `Port.newM_eq_ok` — no width is divided by zero;
* `Port.new_converts` — a port exists if its width can be converted, and says how.
-/

namespace DramScheduler

open Checked

/-- The larger of two widths is the smaller times a power of two. -/
def PowerApart (a b : Nat) : Prop :=
  ∃ k, max a b = min a b * 2 ^ k

namespace PortConfig

variable {a b native : Nat}

/-- **Which widths can be converted**: two that are there and a power of two apart. The remainder of
the two has to be zero before the quotient is looked at. -/
theorem convertible_iff : convertible a b = true ↔ 0 < a ∧ 0 < b ∧ PowerApart a b := by
  rw [convertible]
  simp only [Bool.and_eq_true, bne_iff_ne, beq_iff_eq, Word.isPowerOfTwo_iff]
  constructor
  · rintro ⟨⟨present, whole⟩, k, ratio⟩
    refine ⟨by omega, by omega, k, ?_⟩
    rw [← ratio, Nat.mul_div_cancel' (Nat.dvd_of_mod_eq_zero whole)]
  · rintro ⟨first, second, k, apart⟩
    have positive : 0 < min a b := Nat.lt_min.2 ⟨first, second⟩
    rw [apart, Nat.mul_mod_right, Nat.mul_div_cancel_left _ positive]
    exact ⟨⟨Nat.ne_of_gt positive, rfl⟩, k, rfl⟩

/-- Whether two widths can be converted. The narrower one is divided by only if it is not zero. -/
def convertibleM (a b : Nat) : Checked Bool :=
  if min a b = 0 then return false
  else do
    if (← rem (max a b) (min a b)) = 0 then
      return Word.isPowerOfTwo (← div (max a b) (min a b))
    else return false

/-- The division never goes wrong. -/
theorem convertibleM_eq_ok (a b : Nat) : convertibleM a b = .ok (convertible a b) := by
  rw [convertibleM, convertible]
  split
  · next absent =>
    rw [absent]
    rfl
  · next present =>
    have positive := Nat.pos_of_ne_zero present
    rw [rem_eq_ok positive, ok_bind, div_eq_ok positive]
    split
    · next whole => simp [present, whole, ok_bind, pure, Except.pure]
    · next broken => simp [broken, pure, Except.pure]

/-- The effective width of a port, or why there is none. -/
def validateM (p : PortConfig) (native : Nat) : Checked (Except ConfigError Nat) := do
  let width := p.dataWidth.getD native
  if ← convertibleM width native then return .ok width else return .error (.widthRatio width native)

/-- The width is checked without a division by zero. -/
theorem validateM_eq_ok (p : PortConfig) (native : Nat) :
    p.validateM native = .ok (p.validate native) := by
  rw [validateM, validate, convertibleM_eq_ok, ok_bind]
  split <;> rfl

end PortConfig

namespace Port

variable {index native : Nat} {config : PortConfig}

/-- The port of a master, or why there is none. -/
def newM (index : Nat) (config : PortConfig) (native : Nat) :
    Checked (Except ConfigError Port) := do
  match ← config.validateM native with
  | .error refusal => return .error refusal
  | .ok width =>
    let wider := decide (native < width)
    let ratio ← if wider then div width native else div native width
    return .ok
      { index := index
        dataWidth := width
        clockDomain := config.clockDomain
        ratio := ratio
        wider := wider }

/-- The port of a width that can be converted, and the refusal of any other. -/
theorem new_eq (index : Nat) (config : PortConfig) (native : Nat) :
    new index config native =
      let width := config.dataWidth.getD native
      if PortConfig.convertible width native then
        .ok ⟨index, width, config.clockDomain,
          if native < width then width / native else native / width, native < width⟩
      else .error (.widthRatio width native) := by
  rw [new, PortConfig.validate]
  dsimp only
  split
  · simp [bind, Except.bind, pure, Except.pure]
  · rfl

/-- **No width is divided by zero** on the way to a port, since the check refuses a width of zero
before the ratio is computed. -/
theorem newM_eq_ok (index : Nat) (config : PortConfig) (native : Nat) :
    newM index config native = .ok (new index config native) := by
  rw [newM, PortConfig.validateM_eq_ok, ok_bind, new_eq, PortConfig.validate]
  dsimp only
  by_cases fits : PortConfig.convertible (config.dataWidth.getD native) native
  · obtain ⟨width, words, -⟩ := PortConfig.convertible_iff.1 fits
    rw [if_pos fits, if_pos fits]
    dsimp only
    rw [div_eq_ok width, div_eq_ok words]
    by_cases wider : native < config.dataWidth.getD native
    · simp [wider, ok_bind, pure, Except.pure]
    · simp [wider, ok_bind, pure, Except.pure]
  · rw [if_neg fits, if_neg fits]
    rfl

/-- A port says how its width is converted to the native one. -/
structure Converts (port : Port) (width native : Nat) : Prop where
  /-- The port keeps its width. -/
  dataWidth : port.dataWidth = width
  /-- The ratio is a power of two that leads from one width to the other. -/
  ratio : ∃ k, port.ratio = 2 ^ k ∧ max width native = min width native * 2 ^ k
  /-- So many words of the narrower side make up one of the wider. -/
  ratio_mul : port.ratio * min width native = max width native
  /-- A port is told whether it is the wider side. -/
  wider_iff : port.wider = true ↔ native < width
  /-- Data is converted unless the widths are the same. -/
  needsConversion_iff : port.needsConversion = true ↔ width ≠ native

/-- A port exists if its width can be converted, and is refused for its width otherwise. -/
structure Decides (outcome : Except ConfigError Port) (width native : Nat) : Prop where
  /-- There is a port for the widths that can be converted, and for no others. -/
  exists_iff : (∃ port, outcome = .ok port) ↔ 0 < width ∧ 0 < native ∧ PowerApart width native
  /-- A port says how its width is converted. -/
  converts : ∀ port, outcome = .ok port → port.Converts width native
  /-- A refusal names both widths. -/
  refuses : ∀ refusal, outcome = .error refusal → refusal = .widthRatio width native

/-- The wider side is divided by the narrower, whichever that is. -/
theorem ratio_eq (width native : Nat) :
    (if native < width then width / native else native / width) =
      max width native / min width native := by
  split
  · next wider => rw [Nat.max_eq_left (Nat.le_of_lt wider), Nat.min_eq_right (Nat.le_of_lt wider)]
  · next narrow =>
    have order := Nat.le_of_not_lt narrow
    rw [Nat.max_eq_right order, Nat.min_eq_left order]

/-- The port of a width that can be converted. The ratio is the power of two that the check has
found. -/
theorem converts_of_convertible {width : Nat} (fits : PortConfig.convertible width native)
    (clockDomain : String) :
    Converts ⟨index, width, clockDomain,
      if native < width then width / native else native / width, native < width⟩ width native := by
  obtain ⟨first, second, k, apart⟩ := PortConfig.convertible_iff.1 fits
  have positive : 0 < min width native := Nat.lt_min.2 ⟨first, second⟩
  have ratio : max width native / min width native = 2 ^ k := by
    rw [apart, Nat.mul_div_cancel_left _ positive]
  rw [ratio_eq, ratio]
  refine ⟨rfl, ⟨k, rfl, apart⟩, by rw [apart, Nat.mul_comm], decide_eq_true_iff, ?_⟩
  -- widths that are once each other are the same
  rw [needsConversion, bne_iff_ne, not_iff_not]
  constructor
  · intro once
    rw [show 2 ^ k = 1 from once, Nat.mul_one] at apart
    omega
  · rintro rfl
    rw [Nat.max_self, Nat.min_self] at ratio
    rw [← ratio, Nat.div_self first]

/-- **A port exists exactly if its width can be converted**, and then says how. Nothing is divided
by zero on the way, and a refusal names the two widths. -/
theorem new_converts (index : Nat) (config : PortConfig) (native : Nat) :
    newM index config native = .ok (new index config native) ∧
      Decides (new index config native) (config.dataWidth.getD native) native := by
  refine ⟨newM_eq_ok index config native, ?_⟩
  rw [new_eq]
  dsimp only
  split
  · next fits =>
    refine ⟨⟨fun _ => PortConfig.convertible_iff.1 fits, fun _ => ⟨_, rfl⟩⟩, ?_, nofun⟩
    rintro port made
    obtain rfl := Except.ok.inj made
    exact converts_of_convertible fits _
  · next refused =>
    refine ⟨⟨nofun, fun fits => absurd (PortConfig.convertible_iff.2 fits) refused⟩, nofun, ?_⟩
    rintro refusal made
    exact (Except.error.inj made).symm

-- the widths themselves need not be powers of two
example : new 0 { dataWidth := some 24 } 3 = .ok ⟨0, 24, systemDomain, 8, true⟩ := by decide

end Port

end DramScheduler
