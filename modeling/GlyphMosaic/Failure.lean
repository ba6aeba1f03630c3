import GlyphMosaic.Converter

/-!
# Failures of a run

Each way in which a run of the program can fail, with the message it is reported by.
-/

namespace GlyphMosaic

/-- Why a run failed. -/
inductive Failure where
  /-- The charset is no palette. -/
  | palette (refusal : Palette.Refusal)
  /-- There is no such file. -/
  | fileNotFound (path : String)
  /-- The extension of an image file is not known. -/
  | unsupportedFormat (format : String)
  /-- A picture without extent was asked for. -/
  | invalidDimensions (width height : UInt32)
  /-- There is no such pattern. -/
  | unknownPattern (name : String)
  /-- The file is no image of its format. -/
  | brokenImage (path : String)
  /-- The file cannot be read as text. -/
  | unreadable (path : String)
  /-- The settings in the file are no settings. -/
  | brokenSettings (path : String)
  /-- The file cannot be written. -/
  | unwritable (path : String)
  /-- Neither an image nor a pattern was asked for. -/
  | noSource
  /-- Both an image and a pattern were asked for. -/
  | manySources
  /-- There is nothing to open. -/
  | nothingToOpen
  /-- There is no such output format. -/
  | unknownFormat (name : String)
  /-- There is no such report format. -/
  | unknownReport (name : String)
  /-- The source has no more frames. -/
  | exhausted
  /-- A frame was skipped. -/
  | rejected (width height : UInt32) (reason : SkipReason)

namespace Failure

/-- Two dimensions in a message. -/
def extent (width height : Nat) : String := Nat.repr width ++ "×" ++ Nat.repr height

/-- The message of a failure. -/
def message : Failure → String
  | .palette refusal => refusal.message
  | .fileNotFound path => "Fichier introuvable : " ++ path
  | .unsupportedFormat format => "Format non supporté : " ++ format
  | .invalidDimensions w h => "Dimensions invalides : " ++ extent w.toNat h.toNat
  | .unknownPattern name =>
    "Motif inconnu : " ++ name ++ ". Supportés : gradient, checker, plasma"
  | .brokenImage path => "Impossible de charger " ++ path
  | .unreadable path => "Impossible de lire " ++ path
  | .brokenSettings path => "Erreur de parsing TOML dans " ++ path
  | .unwritable path => "Impossible d'écrire " ++ path
  | .noSource => "Aucune source visuelle spécifiée. Utilisez --image ou --pattern."
  | .manySources =>
    "Une seule source visuelle à la fois. Spécifiez --image OU --pattern."
  | .nothingToOpen => "Aucune source visuelle spécifiée."
  | .unknownFormat name =>
    "Format inconnu : " ++ name ++ ". Supportés : cells, text, html, ansi"
  | .unknownReport name => "Format de rapport inconnu : " ++ name ++ ". Supportés : text, json"
  | .exhausted => "Source épuisée"
  | .rejected w h reason =>
    "Frame " ++ extent w.toNat h.toNat ++ " rejetée : " ++ reason.label

end Failure

end GlyphMosaic
