import PageBuilder.Token

set_option autoImplicit false

namespace PageBuilder

inductive FontFamily where
  | sans
  | serif
  | mono
  | display
deriving DecidableEq

instance : Token FontFamily where
  all := [.sans, .serif, .mono, .display]
  text
    | .sans => "sans"
    | .serif => "serif"
    | .mono => "mono"
    | .display => "display"
  fallback := .sans

namespace FontFamily

def webFont : FontFamily → String
  | .sans => "Inter"
  | .serif => "Merriweather"
  | .mono => "Roboto Mono"
  | .display => "Playfair Display"

def generic : FontFamily → String
  | .sans | .display => "sans-serif"
  | .serif => "serif"
  | .mono => "monospace"

/-- The stylesheet of the web font, its name with `+` for blanks. -/
def stylesheet (family : FontFamily) : String :=
  "https://fonts.googleapis.com/css2?family=" ++
    family.webFont.map (fun c => if c = ' ' then '+' else c) ++
    ":wght@300;400;500;600;700;800&display=swap"

end FontFamily

inductive Language where
  | en
  | pt
  | es
  | fr
deriving DecidableEq

instance : Token Language where
  all := [.en, .pt, .es, .fr]
  text
    | .en => "en"
    | .pt => "pt"
    | .es => "es"
    | .fr => "fr"
  fallback := .en

structure Settings where
  title : String := "My Awesome Site"
  description : String := "Created with Website Builder"
  keywords : String := ""
  ogImage : String := ""
  robots : String := ""
  author : String := ""
  fontFamily : FontFamily := .sans
  primaryColor : String := "#4F46E5"
  secondaryColor : String := "#E5E7EB"
  backgroundColor : String := "#F9FAFB"
  textColor : String := "#111827"
  accentColor : String := "#FBBF24"
deriving DecidableEq

namespace Settings

def record : Json.Record Settings where
  name := "GlobalSettings"
  blank := {}
  fields := [
    .of "title" Settings.title fun v x => { x with title := v },
    .of "description" Settings.description fun v x => { x with description := v },
    .of "keywords" Settings.keywords fun v x => { x with keywords := v },
    .of "ogImage" Settings.ogImage fun v x => { x with ogImage := v },
    .of "robots" Settings.robots fun v x => { x with robots := v },
    .of "author" Settings.author fun v x => { x with author := v },
    .of "fontFamily" Settings.fontFamily fun v x => { x with fontFamily := v },
    .of "primaryColor" Settings.primaryColor fun v x => { x with primaryColor := v },
    .of "secondaryColor" Settings.secondaryColor fun v x => { x with secondaryColor := v },
    .of "backgroundColor" Settings.backgroundColor fun v x => { x with backgroundColor := v },
    .of "textColor" Settings.textColor fun v x => { x with textColor := v },
    .of "accentColor" Settings.accentColor fun v x => { x with accentColor := v }]

instance : Json.Codec Settings := record.codec

/-- The custom properties of the palette with their colors. -/
def palette (settings : Settings) : List (String × String) :=
  [("--color-primary", settings.primaryColor), ("--color-secondary", settings.secondaryColor),
    ("--color-bg", settings.backgroundColor), ("--color-text", settings.textColor),
    ("--color-accent", settings.accentColor)]

def fontStack (settings : Settings) : String :=
  "'" ++ settings.fontFamily.webFont ++ "', " ++ settings.fontFamily.generic

end Settings

structure Preferences where
  darkMode : Bool := false
  showGridLines : Bool := false
  language : Language := .en
deriving DecidableEq

namespace Preferences

def record : Json.Record Preferences where
  name := "AppPreferences"
  blank := {}
  fields := [
    .of "darkMode" Preferences.darkMode fun v x => { x with darkMode := v },
    .of "showGridLines" Preferences.showGridLines fun v x => { x with showGridLines := v },
    .of "language" Preferences.language fun v x => { x with language := v }]

instance : Json.Codec Preferences := record.codec

end Preferences
end PageBuilder
