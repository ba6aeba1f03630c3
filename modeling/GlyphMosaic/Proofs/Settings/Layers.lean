import GlyphMosaic.Files.FileTree
import GlyphMosaic.Program
import GlyphMosaic.Proofs.Settings.Ranges
import Mathlib.Data.List.Forall2

/-!
# Layers of settings

The settings of a file are clamped before the options are put on top of them, and the result is
clamped once more.  The first time makes no difference.

* `Palette.preset?_of_spells`, `Palette.preset?_of_not_spells` : which texts name a preset.
* `Settings.clamp_apply_clamp` : what lies below a layer may be clamped or not.
* `Settings.resolve_eq` : all layers are merged and clamped once.
* `Settings.IsMerged` : the settings that the options, the file and the defaults come to.
* `Settings.resolve_merges` : **the settings of a run are these, clamped once**.
-/

namespace GlyphMosaic

/-! ### Names of presets -/

namespace Palette

/-- The presets with their names. -/
def presets : List (String × String) :=
  [("compact", compact), ("standard", standard), ("minimal", minimal)]

/-- A character is another one or its capital in the ASCII alphabet. -/
def IsLetterOf (d c : Char) : Prop := c = d ∨ (c.isUpper = true ∧ c.toNat + 32 = d.toNat)

/-- A text is a name but for some capitals of the ASCII alphabet. -/
def Spells (text name : String) : Prop := List.Forall₂ IsLetterOf name.toList text.toList

instance : DecidableRel IsLetterOf := fun d c => inferInstanceAs (Decidable (c = d ∨ _))

instance (text name : String) : Decidable (Spells text name) :=
  inferInstanceAs (Decidable (List.Forall₂ IsLetterOf name.toList text.toList))

theorem isUpper_iff {c : Char} : c.isUpper = true ↔ 65 ≤ c.toNat ∧ c.toNat ≤ 90 := by
  have hrange : c.isUpper = decide (65 ≤ c.toNat ∧ c.toNat ≤ 90) := rfl
  rw [hrange, decide_eq_true_eq]

theorem toLower_of_not_isUpper {c : Char} (hc : ¬c.isUpper = true) : c.toLower = c :=
  dif_neg fun hrange => hc (decide_eq_true hrange)

theorem toNat_toLower {c : Char} (hc : c.isUpper = true) : c.toLower.toNat = c.toNat + 32 := by
  obtain ⟨-, hle⟩ := isUpper_iff.1 hc
  have hval : c.toLower.val = c.val + 32 := congrArg Char.val (dif_pos (of_decide_eq_true hc))
  have hnat : c.toLower.val.toNat = (c.val.toNat + 32) % 2 ^ 32 := by
    rw [hval, UInt32.toNat_add]
    rfl
  change c.toLower.val.toNat = c.val.toNat + 32
  change c.val.toNat ≤ 90 at hle
  omega

theorem isLetterOf_iff {c d : Char} (hd : d.isUpper = false) : IsLetterOf d c ↔ c.toLower = d := by
  by_cases hc : c.isUpper = true
  · have hne : c ≠ d := by
      rintro rfl
      rw [hd] at hc
      cases hc
    rw [IsLetterOf, ← Char.toNat_inj (c := c.toLower), toNat_toLower hc]
    simp [hne, hc]
  · simp [IsLetterOf, hc, toLower_of_not_isUpper hc]

theorem forall₂_isLetterOf_iff {letters cs : List Char}
    (hletters : ∀ d ∈ letters, d.isUpper = false) :
    List.Forall₂ IsLetterOf letters cs ↔ cs.map Char.toLower = letters := by
  induction letters generalizing cs with
  | nil => rw [List.forall₂_nil_left_iff, List.map_eq_nil_iff]
  | cons d letters ih =>
    obtain ⟨hd, hletters⟩ := List.forall_mem_cons.1 hletters
    cases cs with
    | nil => simp
    | cons c cs =>
      rw [List.forall₂_cons, isLetterOf_iff hd, ih hletters, List.map_cons, List.cons.injEq]

/-- The lower-case form of a text decides which name it is. -/
theorem spells_iff {text name : String} (hname : ∀ d ∈ name.toList, d.isUpper = false) :
    Spells text name ↔ text.map Char.toLower = name := by
  rw [Spells, forall₂_isLetterOf_iff hname, ← String.toList_inj, String.toList_map]

theorem not_isUpper_of_mem_presets :
    ∀ entry ∈ presets, ∀ d ∈ entry.1.toList, d.isUpper = false := by
  have hall : ∀ entry ∈ presets, entry.1.toList.all (!·.isUpper) = true := by decide
  intro entry hentry d hd
  exact Bool.not_eq_true' _ ▸ List.all_eq_true.1 (hall entry hentry) d hd

theorem preset?_of_spells {text : String} {entry : String × String} (hentry : entry ∈ presets)
    (h : Spells text entry.1) : preset? text = some entry.2 := by
  have hword := (spells_iff (not_isUpper_of_mem_presets entry hentry)).1 h
  simp only [presets, List.mem_cons, List.not_mem_nil, or_false] at hentry
  unfold preset?
  rcases hentry with rfl | rfl | rfl <;> simp [hword]

theorem preset?_of_not_spells {text : String} (h : ∀ entry ∈ presets, ¬Spells text entry.1) :
    preset? text = none := by
  have hword := fun entry hentry =>
    mt (spells_iff (not_isUpper_of_mem_presets entry hentry)).2 (h entry hentry)
  simp only [presets, List.mem_cons, List.not_mem_nil, or_false,
    forall_eq_or_imp, forall_eq] at hword
  obtain ⟨hcompact, hstandard, hminimal⟩ := hword
  unfold preset?
  dsimp only
  rw [if_neg hcompact, if_neg hstandard, if_neg hminimal]

end Palette

/-! ### Clamping layer by layer -/

namespace Settings

theorem clamp_apply_clamp (s : Settings) (l : Layer) :
    (s.clamp.apply l).clamp = (s.apply l).clamp := by
  -- a field that the layer gives hides the one below it, and any other one is clamped twice
  have hfield {α : Type} (clampField : α → α)
      (hclamp : ∀ x, clampField (clampField x) = clampField x)
      (given : Option α) (x : α) :
      clampField (given.getD (clampField x)) = clampField (given.getD x) := by
    cases given with
    | none => exact hclamp x
    | some y => rfl
  have hcharset := hfield usableCharset (fun x => usableCharset_eq (length_usableCharset x))
  have hgamma := hfield clampGamma fun x => clampGamma_eq (isExponent_clampGamma x)
  have hextent := hfield clampExtent clampExtent_clampExtent
  have hwarmup := hfield clampWarmup clampWarmup_clampWarmup
  simp only [clamp, apply, hcharset, hgamma, hextent, hwarmup]

/-- All layers are merged and clamped once. -/
theorem resolve_eq (file : Option Layer) (options : Layer) :
    resolve file options = (default.apply (options.over (file.getD {}))).clamp := by
  rw [apply_over]
  cases file with
  | none => rfl
  | some l => exact clamp_apply_clamp (default.apply l) options

/-! ### What the layers come to -/

/-- The settings that the options, the file and the defaults come to, without any clamping: a value
of the options, or else one of the file, or else the default. -/
structure IsMerged (file : Option Layer) (o : Options) (s : Settings) : Prop where
  /-- The name of a preset stands for its glyphs. -/
  preset : ∀ text, o.charset = some text → ∀ entry ∈ Palette.presets, Palette.Spells text entry.1 →
    s.charset = entry.2
  /-- Any other text stands for itself. -/
  literal : ∀ text, o.charset = some text →
    (∀ entry ∈ Palette.presets, ¬Palette.Spells text entry.1) →
    s.charset = text
  charset : o.charset = none → s.charset = (file.bind (·.charset)).getD Palette.compact
  gamma : s.gamma = (o.gamma.or (file.bind (·.gamma))).getD Tables.defaultGamma
  outputWidth : s.outputWidth = (o.width.or (file.bind (·.outputWidth))).getD 240
  outputHeight : s.outputHeight = (o.height.or (file.bind (·.outputHeight))).getD 80
  warmupFrames : s.warmupFrames = (o.warmup.or (file.bind (·.warmupFrames))).getD 3
  vectorized : s.vectorized = ((file.bind (·.vectorized)).getD true && !o.scalar)
  benchmark : s.benchmark = (file.bind (·.benchmark)).getD false

/-- The merged settings. -/
def merged (file : Option Layer) (o : Options) : Settings :=
  default.apply (o.layer.over (file.getD {}))

theorem isMerged_merged (file : Option Layer) (o : Options) : IsMerged file o (merged file o) := by
  -- a file that is not there gives what an empty one gives
  have hfile {α : Type} (field : Layer → Option α) (hfield : field {} = none) :
      file.bind field = field (file.getD {}) := by
    cases file with
    | none => exact hfield.symm
    | some l => rfl
  have hgiven (text : String) (htext : o.charset = some text) :
      (merged file o).charset = (Palette.preset? text).getD text := by
    simp only [merged, apply, Layer.over, Options.layer, htext, Option.map_some,
      Option.some_or, Option.getD_some]
  constructor
  case preset =>
    intro text htext entry hentry hspells
    rw [hgiven text htext, Palette.preset?_of_spells hentry hspells, Option.getD_some]
  case literal =>
    intro text htext hspells
    rw [hgiven text htext, Palette.preset?_of_not_spells hspells, Option.getD_none]
  case charset =>
    intro hnone
    rw [hfile (·.charset) rfl]
    simp only [merged, apply, Layer.over, Options.layer, hnone, Option.map_none,
      Option.none_or, default]
  case gamma => rw [hfile (·.gamma) rfl]; rfl
  case outputWidth => rw [hfile (·.outputWidth) rfl]; rfl
  case outputHeight => rw [hfile (·.outputHeight) rfl]; rfl
  case warmupFrames => rw [hfile (·.warmupFrames) rfl]; rfl
  case benchmark => rw [hfile (·.benchmark) rfl]; rfl
  case vectorized =>
    rw [hfile (·.vectorized) rfl]
    cases hscalar : o.scalar <;> simp [merged, apply, Layer.over, Options.layer, hscalar, default]

end Settings

namespace Program

variable {m : Type → Type} [Monad m] (host : Host m)

/-- The layer of settings at a path, or none if there is nothing. -/
def layerAt (path : String) : ExceptT Failure m (Option Settings.Layer) := do
  if ← host.present path then some <$> loadLayer host path else pure none

theorem resolveSettings_eq [LawfulMonad m] (o : Options) :
    resolveSettings host o =
      (fun file => Settings.resolve file o.layer) <$> layerAt host o.config := by
  simp only [resolveSettings, layerAt, map_eq_pure_bind, bind_assoc, pure_bind]
  congr 1
  funext present
  cases present with
  | true => simp only [if_true, bind_assoc, pure_bind]
  | false => simp only [Bool.false_eq_true, if_false, pure_bind]

end Program

/-- The layer of settings in the file at a path. -/
def FileTree.layer? (t : FileTree) (path : String) : Option Settings.Layer := do
  let bytes ← t.read? path
  let text ← String.fromUTF8? bytes
  Settings.Layer.read? text

theorem FileTree.present_of_layer? {t : FileTree} {path : String} {l : Settings.Layer}
    (h : t.layer? path = some l) : t.present path = true := by
  obtain ⟨bytes, hread, -⟩ := Option.bind_eq_some_iff.1 h
  rw [FileTree.present, hread]
  rfl

namespace Program

variable {α : Type} {watch : Stopwatch Id} {scene after : Scene} {path : String}
  {l : Settings.Layer} {file : Option Settings.Layer}

theorem run_present (k : Bool → ExceptT Failure (StateM Scene) α) :
    (liftM ((Scene.host watch).present path) >>= k).run scene =
      (k (scene.tree.present path)).run scene := rfl

theorem run_read? (k : Option ByteArray → ExceptT Failure (StateM Scene) α) :
    (liftM ((Scene.host watch).read? path) >>= k).run scene =
      (k (scene.tree.read? path)).run scene := rfl

theorem run_map_eq_ok {β : Type} {f : α → β} {x : ExceptT Failure (StateM Scene) α} {b : β} :
    (f <$> x).run scene = (.ok b, after) ↔ ∃ a, x.run scene = (.ok a, after) ∧ f a = b := by
  have hrun : (f <$> x).run scene = (Except.map f (x.run scene).1, (x.run scene).2) := by
    rw [ExceptT.run_map]
    rfl
  rw [hrun]
  obtain ⟨answer, last⟩ := x.run scene
  cases answer with
  | error e => exact ⟨fun h => (nomatch h), fun ⟨_, h, _⟩ => (nomatch h)⟩
  | ok a =>
    constructor
    · intro h
      cases h
      exact ⟨a, rfl, rfl⟩
    · rintro ⟨_, h, rfl⟩
      cases h
      rfl

/-- A layer is loaded exactly if the bytes at its path are those of a text that is read as this
layer. -/
theorem run_loadLayer : (loadLayer (Scene.host watch) path).run scene = (.ok l, after) ↔
    scene.tree.layer? path = some l ∧ after = scene := by
  cases hpresent : scene.tree.present path with
  | false =>
    rw [loadLayer, run_present, hpresent]
    constructor
    · intro h
      cases h
    · rintro ⟨h, -⟩
      rw [FileTree.present_of_layer? h] at hpresent
      cases hpresent
  | true =>
    rw [loadLayer, run_present, hpresent, FileTree.layer?]
    simp only [Bool.not_true, Bool.false_eq_true, if_false]
    rw [run_read?]
    cases scene.tree.read? path with
    | none => exact ⟨fun h => (nomatch h), fun h => (nomatch h.1)⟩
    | some bytes =>
      simp only [Option.bind_eq_bind, Option.bind_some]
      cases htext : String.fromUTF8? bytes with
      | none => exact ⟨fun h => (nomatch h), fun h => (nomatch h.1)⟩
      | some text =>
        simp only [Option.bind_some]
        cases Settings.Layer.read? text with
        | none => exact ⟨fun h => (nomatch h), fun h => (nomatch h.1)⟩
        | some layer =>
          constructor
          · intro h
            cases h
            exact ⟨rfl, rfl⟩
          · rintro ⟨h, rfl⟩
            cases h
            rfl

theorem run_layerAt : (layerAt (Scene.host watch) path).run scene = (.ok file, after) ↔
    after = scene ∧ ((scene.tree.present path = false ∧ file = none) ∨
      ∃ l, scene.tree.layer? path = some l ∧ file = some l) := by
  rw [layerAt, run_present]
  cases hpresent : scene.tree.present path with
  | false =>
    have hnone : ∀ l, scene.tree.layer? path ≠ some l := fun l hl =>
      Bool.false_ne_true (hpresent.symm.trans (FileTree.present_of_layer? hl))
    simp only [Bool.false_eq_true, if_false, hnone, false_and, exists_false, or_false, true_and]
    constructor
    · intro h
      cases h
      exact ⟨rfl, rfl⟩
    · rintro ⟨rfl, rfl⟩
      rfl
  | true =>
    simp only [if_true, run_map_eq_ok, run_loadLayer, Bool.true_eq_false, false_and, false_or]
    grind

/-- Among files, the settings of a run are those of its options over the layer in its settings file,
or over the defaults where there is nothing at that path.  Nothing else leads to settings. -/
theorem run_resolveSettings {o : Options} {s : Settings} :
    (resolveSettings (Scene.host watch) o).run scene = (.ok s, after) ↔
      after = scene ∧ ((scene.tree.present o.config = false ∧ s = Settings.resolve none o.layer) ∨
        ∃ l, scene.tree.layer? o.config = some l ∧ s = Settings.resolve (some l) o.layer) := by
  rw [resolveSettings_eq, run_map_eq_ok]
  simp only [run_layerAt]
  grind

end Program

/-- The settings of a run are those that its options, its file and the defaults come to, clamped
once.  A charset that is no palette becomes the compact one, and none of a layer below it.  Among
files, the layer of the file is the one that the bytes at its path are read as, and there is none
where there is nothing. -/
theorem Settings.resolve_merges (o : Options) :
    (∀ file : Option Layer, ∃ s, IsMerged file o s ∧ resolve file o.layer = s.clamp
      ∧ s.clamp.charset =
        (if 2 ≤ s.charset.length ∧ s.charset.length ≤ 256 then s.charset else Palette.compact)) ∧
    (∀ (m : Type → Type) [Monad m] [LawfulMonad m] (host : Host m), Program.resolveSettings host o
      = (fun file => resolve file o.layer) <$> Program.layerAt host o.config) ∧
    ∀ (watch : Stopwatch Id) (scene after : Scene) (s : Settings),
      (Program.resolveSettings (Scene.host watch) o).run scene = (.ok s, after) ↔ after = scene ∧
        ((scene.tree.present o.config = false ∧ s = resolve none o.layer) ∨
          ∃ l, scene.tree.layer? o.config = some l ∧ s = resolve (some l) o.layer) := by
  refine ⟨fun file => ⟨merged file o, isMerged_merged file o, resolve_eq file o.layer, ?_⟩,
    fun m _ _ host => Program.resolveSettings_eq host o, fun _ _ _ _ => Program.run_resolveSettings⟩
  change usableCharset (merged file o).charset = _
  split
  · rename_i h
    exact usableCharset_eq h
  · rename_i h
    exact usableCharset_eq_compact h

/-- A file that is out of range, below a preset in capitals and no lanes; and the same options among
files. -/
theorem Settings.resolve_merges_minimal :
    (resolve (some { charset := some "x", gamma := some ⟨0x7fc00000⟩, outputWidth := some 5000 })
        ({ charset := some "Minimal", scalar := true } : Options).layer
      = { charset := " .:#@", gamma := Tables.defaultGamma, outputWidth := 1024, outputHeight := 80,
          vectorized := false, benchmark := false, warmupFrames := 3 }) ∧
    Program.resolveSettings (Scene.host (.steady ⟨⟨0, 5⟩, 5, 0⟩))
        { charset := some "Minimal", scalar := true }
      = (fun file => resolve file { charset := some " .:#@", vectorized := some false })
        <$> Program.layerAt (Scene.host (.steady ⟨⟨0, 5⟩, 5, 0⟩)) "config/default.toml" := by
  obtain ⟨hmerges, hhost, -⟩ := resolve_merges { charset := some "Minimal", scalar := true }
  have hspells : Palette.Spells "Minimal" "minimal" := by decide
  have hmem : ("minimal", Palette.minimal) ∈ Palette.presets := by decide
  constructor
  · obtain ⟨s, hs, hresolve, -⟩ := hmerges
      (some { charset := some "x", gamma := some ⟨0x7fc00000⟩, outputWidth := some 5000 })
    have hcharset := hs.preset "Minimal" rfl ("minimal", Palette.minimal) hmem hspells
    rw [hresolve, clamp, hcharset, hs.gamma, hs.outputWidth, hs.outputHeight, hs.vectorized,
      hs.benchmark, hs.warmupFrames]
    rfl
  · have hpreset : Palette.preset? "Minimal" = some " .:#@" :=
      Palette.preset?_of_spells hmem hspells
    rw [hhost (StateM Scene) (Scene.host (.steady ⟨⟨0, 5⟩, 5, 0⟩))]
    simp only [Options.layer, Option.map_some, hpreset, Option.getD_some, if_true]

end GlyphMosaic
