import PagePreview.Config
import PagePreview.Text.Letter
import PagePreview.Text.Blank

/-! Icons: a closed table of glyphs on a 24 by 24 grid, and the naming habits of icon packs. -/

namespace PagePreview.Icon
open Text

def defaultPath : String := "M12 2a10 10 0 1 0 0 20a10 10 0 1 0 0-20z"

def glyphs : List (String × String) := [
  ("Star",
    "M12 2l3.09 6.26L22 9.27l-5 4.87 1.18 6.88L12 17.77l-6.18 3.25L7 14.14 2 " ++
    "9.27l6.91-1.01L12 2z"),
  ("Heart",
    "M20.84 4.61a5.5 5.5 0 0 0-7.78 0L12 5.67l-1.06-1.06a5.5 5.5 0 0 0-7.78 7.78L12 " ++
    "21.23l8.84-8.84a5.5 5.5 0 0 0 0-7.78z"),
  ("Check", "M20 6L9 17l-5-5"),
  ("X", "M18 6L6 18M6 6l12 12"),
  ("Close", "M18 6L6 18M6 6l12 12"),
  ("Menu", "M3 12h18M3 6h18M3 18h18"),
  ("Plus", "M12 5v14M5 12h14"),
  ("Minus", "M5 12h14"),
  ("ArrowRight", "M5 12h14M12 5l7 7-7 7"),
  ("ArrowLeft", "M19 12H5M12 19l-7-7 7-7"),
  ("ArrowUp", "M12 19V5M5 12l7-7 7 7"),
  ("ArrowDown", "M12 5v14M19 12l-7 7-7-7"),
  ("ChevronRight", "M9 18l6-6-6-6"),
  ("ChevronLeft", "M15 18l-6-6 6-6"),
  ("ChevronDown", "M6 9l6 6 6-6"),
  ("ChevronUp", "M18 15l-6-6-6 6"),
  ("Search", "M11 19a8 8 0 1 0 0-16 8 8 0 0 0 0 16zM21 21l-4.35-4.35"),
  ("Mail",
    "M4 4h16c1.1 0 2 .9 2 2v12c0 1.1-.9 2-2 2H4c-1.1 0-2-.9-2-2V6c0-1.1.9-2 2-2zM22 " ++
    "6l-10 7L2 6"),
  ("Phone",
    "M22 16.92v3a2 2 0 0 1-2.18 2 19.79 19.79 0 0 1-8.63-3.07 19.5 19.5 0 0 1-6-6A19.79 " ++
    "19.79 0 0 1 2.12 4.18 2 2 0 0 1 4.11 2h3a2 2 0 0 1 2 1.72c.13.96.36 1.9.7 2.81a2 2 " ++
    "0 0 1-.45 2.11L8.09 9.91a16 16 0 0 0 6 6l1.27-1.27a2 2 0 0 1 2.11-.45c.91.34 " ++
    "1.85.57 2.81.7A2 2 0 0 1 22 16.92z"),
  ("MapPin", "M21 10c0 7-9 13-9 13s-9-6-9-13a9 9 0 0 1 18 0zM12 13a3 3 0 1 0 0-6 3 3 0 0 0 0 6z"),
  ("User", "M20 21v-2a4 4 0 0 0-4-4H8a4 4 0 0 0-4 4v2M12 11a4 4 0 1 0 0-8 4 4 0 0 0 0 8z"),
  ("Users",
    "M17 21v-2a4 4 0 0 0-4-4H5a4 4 0 0 0-4 4v2M9 11a4 4 0 1 0 0-8 4 4 0 0 0 0 8zM23 " ++
    "21v-2a4 4 0 0 0-3-3.87M16 3.13a4 4 0 0 1 0 7.75"),
  ("Home", "M3 9l9-7 9 7v11a2 2 0 0 1-2 2H5a2 2 0 0 1-2-2zM9 22V12h6v10"),
  ("ShoppingCart",
    "M9 22a1 1 0 1 0 0-2 1 1 0 0 0 0 2zM20 22a1 1 0 1 0 0-2 1 1 0 0 0 0 2zM1 1h4l2.68 " ++
    "13.39a2 2 0 0 0 2 1.61h9.72a2 2 0 0 0 2-1.61L23 6H6"),
  ("ShoppingBag", "M6 2L3 6v14a2 2 0 0 0 2 2h14a2 2 0 0 0 2-2V6l-3-4zM3 6h18M16 10a4 4 0 0 1-8 0"),
  ("Calendar",
    "M19 4H5a2 2 0 0 0-2 2v14a2 2 0 0 0 2 2h14a2 2 0 0 0 2-2V6a2 2 0 0 0-2-2zM16 2v4M8 " ++
    "2v4M3 10h18"),
  ("Clock", "M12 22a10 10 0 1 0 0-20 10 10 0 0 0 0 20zM12 6v6l4 2"),
  ("Globe",
    "M12 22a10 10 0 1 0 0-20 10 10 0 0 0 0 20zM2 12h20M12 2a15.3 15.3 0 0 1 4 10 15.3 " ++
    "15.3 0 0 1-4 10 15.3 15.3 0 0 1-4-10 15.3 15.3 0 0 1 4-10z"),
  ("Sparkles", "M12 3l1.9 5.8L20 10.7l-6.1 1.9L12 18.4l-1.9-5.8L4 10.7l6.1-1.9zM19 3v4M21 5h-4"),
  ("Zap", "M13 2L3 14h9l-1 8 10-12h-9l1-8z"),
  ("Shield", "M12 22s8-4 8-10V5l-8-3-8 3v7c0 6 8 10 8 10z"),
  ("Lock",
    "M19 11H5a2 2 0 0 0-2 2v7a2 2 0 0 0 2 2h14a2 2 0 0 0 2-2v-7a2 2 0 0 0-2-2zM7 11V7a5 " ++
    "5 0 0 1 10 0v4"),
  ("Settings",
    "M12 15a3 3 0 1 0 0-6 3 3 0 0 0 0 6zM19.4 15a1.65 1.65 0 0 0 .33 1.82l.06.06a2 2 0 1 " ++
    "1-2.83 2.83l-.06-.06a1.65 1.65 0 0 0-2.82 1.17V21a2 2 0 1 1-4 0v-.09A1.65 1.65 0 0 " ++
    "0 7 19.4a1.65 1.65 0 0 0-1.82.33l-.06.06a2 2 0 1 1-2.83-2.83l.06-.06A1.65 1.65 0 0 " ++
    "0 3.6 15H3a2 2 0 1 1 0-4h.09A1.65 1.65 0 0 0 4.6 9a1.65 1.65 0 0 " ++
    "0-.33-1.82l-.06-.06a2 2 0 1 1 2.83-2.83l.06.06A1.65 1.65 0 0 0 9 4.6V3a2 2 0 1 1 4 " ++
    "0v.09A1.65 1.65 0 0 0 15 4.6a1.65 1.65 0 0 0 1.82-.33l.06-.06a2 2 0 1 1 2.83 " ++
    "2.83l-.06.06A1.65 1.65 0 0 0 19.4 9V9a1.65 1.65 0 0 0 1.51 1H21a2 2 0 1 1 0 " ++
    "4h-.09a1.65 1.65 0 0 0-1.51 1z"),
  ("Instagram",
    "M17 2H7a5 5 0 0 0-5 5v10a5 5 0 0 0 5 5h10a5 5 0 0 0 5-5V7a5 5 0 0 0-5-5zM16 11.37A4 " ++
    "4 0 1 1 12.63 8 4 4 0 0 1 16 11.37zM17.5 6.5h.01"),
  ("Facebook", "M18 2h-3a5 5 0 0 0-5 5v3H7v4h3v8h4v-8h3l1-4h-4V7a1 1 0 0 1 1-1h3z"),
  ("Twitter",
    "M23 3a10.9 10.9 0 0 1-3.14 1.53 4.48 4.48 0 0 0-7.86 3v1A10.66 10.66 0 0 1 3 4s-4 9 " ++
    "5 13a11.64 11.64 0 0 1-7 2c9 5 20 0 20-11.5a4.5 4.5 0 0 0-.08-.83A7.72 7.72 0 0 0 " ++
    "23 3z"),
  ("Linkedin",
    "M16 8a6 6 0 0 1 6 6v7h-4v-7a2 2 0 0 0-4 0v7h-4v-7a6 6 0 0 1 6-6zM2 9h4v12H2zM4 6a2 " ++
    "2 0 1 0 0-4 2 2 0 0 0 0 4z"),
  ("Github",
    "M9 19c-5 1.5-5-2.5-7-3m14 6v-3.87a3.37 3.37 0 0 0-.94-2.61c3.14-.35 6.44-1.54 " ++
    "6.44-7A5.44 5.44 0 0 0 20 4.77 5.07 5.07 0 0 0 19.91 1S18.73.65 16 2.48a13.38 13.38 " ++
    "0 0 0-7 0C6.27.65 5.09 1 5.09 1A5.07 5.07 0 0 0 5 4.77a5.44 5.44 0 0 0-1.5 3.78c0 " ++
    "5.42 3.3 6.61 6.44 7A3.37 3.37 0 0 0 9 18.13V22"),
  ("Quote",
    "M3 21c3 0 7-1 7-8V5c0-1.25-.76-2.02-2-2H4c-1.25 0-2 .75-2 1.97V11c0 1.25.75 2 2 2 1 " ++
    "0 1 0 1 1v1c0 1-1 2-2 2s-1 .01-1 1.03V20c0 1 0 1 1 1zM15 21c3 0 7-1 " ++
    "7-8V5c0-1.25-.76-2.02-2-2h-4c-1.25 0-2 .75-2 1.97V11c0 1.25.75 2 2 2h.75c0 2.25.25 " ++
    "4-2.75 4v3c0 1 0 1 1 1z"),
  ("Play", "M5 3l14 9-14 9V3z"),
  ("Info", "M12 22a10 10 0 1 0 0-20 10 10 0 0 0 0 20zM12 16v-4M12 8h.01"),
  ("Send", "M22 2L11 13M22 2l-7 20-4-9-9-4 20-7z"),
  ("Award", "M12 15a7 7 0 1 0 0-14 7 7 0 0 0 0 14zM8.21 13.89L7 23l5-3 5 3-1.21-9.12"),
  ("TrendingUp", "M23 6l-9.5 9.5-5-5L1 18M17 6h6v6"),
  ("Camera",
    "M23 19a2 2 0 0 1-2 2H3a2 2 0 0 1-2-2V8a2 2 0 0 1 2-2h4l2-3h6l2 3h4a2 2 0 0 1 2 " ++
    "2zM12 17a4 4 0 1 0 0-8 4 4 0 0 0 0 8z")]

def glyph? (name : List Char) : Option String := glyphs.lookup (String.ofList name)

def packPrefixes : List String := [
  "HiOutline", "HiSolid", "Hi2", "Io5", "Tfi", "Vsc", "Lia", "Fa6", "Fa", "Fi", "Md", "Ai",
  "Bi", "Bs", "Hi", "Io", "Ri", "Tb", "Lu", "Si", "Gi", "Go", "Gr", "Im", "Ti", "Wi", "Cg",
  "Di", "Pi", "Rx", "Sl", "Fc"]

def styleSuffixes : List String := ["Outline", "Solid", "Fill", "Filled", "Bold", "Icon"]

def afterPrefix? (start : String) (name : List Char) : Option (List Char) :=
  (after? start.toList name).filter startsUpper

def beforeSuffix? (stop : String) (name : List Char) : Option (List Char) :=
  (before? stop.toList name).filter (· ≠ [])

def peelSuffixes : Nat → List Char → List Char
  | 0, name => name
  | bound + 1, name =>
    match styleSuffixes.findSome? (beforeSuffix? · name) with
    | some rest => peelSuffixes bound rest
    | none => name

def synonym (name : String) : String :=
  match name with
  | "Cart" => "ShoppingCart"
  | "Location" | "LocationMarker" => "MapPin"
  | "Envelope" => "Mail"
  | "Bars3" | "Bars" | "Hamburger" => "Menu"
  | "XMark" | "Times" => "X"
  | "MagnifyingGlass" => "Search"
  | other => other

/-- The plain name behind a pack's name: without the word `Icon` in front, then without one pack
prefix, then without style suffixes. -/
def plainName (name : List Char) : List Char :=
  let bare := (afterPrefix? "Icon" name).getD name
  let bare := (packPrefixes.findSome? (afterPrefix? · bare)).getD bare
  (synonym (String.ofList (peelSuffixes bare.length bare))).toList

def path? (name : String) : Option String :=
  (glyph? name.toList).or (glyph? (plainName name.toList))

def isIconModule (config : Config) (module : String) : Bool :=
  config.iconModules.any fun known =>
    module == known || ((after? known.toList module.toList).any (startsWith ['/']))

end PagePreview.Icon
