import FeatureLexer.Dialect.Basic

/-!
# The dialects with codes from d to e

The keyword spellings of each natural language, as its speakers write them.
-/

namespace FeatureLexer
namespace Dialect

/-- Danish. -/
def danish : Dialect where
  code := "da"
  name := "Danish"
  native := "dansk"
  blockSpellings
    | .feature => ["Egenskab"]
    | .rule => ["Regel"]
    | .background => ["Baggrund"]
    | .scenario => ["Eksempel", "Scenarie"]
    | .scenarioOutline => ["Abstrakt Scenario"]
    | .examples => ["Eksempler"]
  stepSpellings
    | .givenStep => ["* ", "Givet "]
    | .whenStep => ["* ", "Når "]
    | .thenStep => ["* ", "Så "]
    | .andStep => ["* ", "Og "]
    | .butStep => ["* ", "Men "]

/-- German. -/
def german : Dialect where
  code := "de"
  name := "German"
  native := "Deutsch"
  blockSpellings
    | .feature => ["Funktionalität", "Funktion"]
    | .rule => ["Rule", "Regel"]
    | .background => ["Grundlage", "Hintergrund", "Voraussetzungen", "Vorbedingungen"]
    | .scenario => ["Beispiel", "Szenario"]
    | .scenarioOutline => ["Szenariogrundriss", "Szenarien"]
    | .examples => ["Beispiele"]
  stepSpellings
    | .givenStep => ["* ", "Angenommen ", "Gegeben sei ", "Gegeben seien "]
    | .whenStep => ["* ", "Wenn "]
    | .thenStep => ["* ", "Dann "]
    | .andStep => ["* ", "Und "]
    | .butStep => ["* ", "Aber "]

/-- Greek. -/
def greek : Dialect where
  code := "el"
  name := "Greek"
  native := "Ελληνικά"
  blockSpellings
    | .feature => ["Δυνατότητα", "Λειτουργία"]
    | .rule => ["Rule"]
    | .background => ["Υπόβαθρο"]
    | .scenario => ["Παράδειγμα", "Σενάριο"]
    | .scenarioOutline => ["Περιγραφή Σεναρίου", "Περίγραμμα Σεναρίου"]
    | .examples => ["Παραδείγματα", "Σενάρια"]
  stepSpellings
    | .givenStep => ["* ", "Δεδομένου "]
    | .whenStep => ["* ", "Όταν "]
    | .thenStep => ["* ", "Τότε "]
    | .andStep => ["* ", "Και "]
    | .butStep => ["* ", "Αλλά "]

/-- Emoji. -/
def emoji : Dialect where
  code := "em"
  name := "Emoji"
  native := "😀"
  blockSpellings
    | .feature => ["📚"]
    | .rule => ["Rule"]
    | .background => ["💤"]
    | .scenario => ["🥒", "📕"]
    | .scenarioOutline => ["📖"]
    | .examples => ["📓"]
  stepSpellings
    | .givenStep => ["* ", "😐"]
    | .whenStep => ["* ", "🎬"]
    | .thenStep => ["* ", "🙏"]
    | .andStep => ["* ", "😂"]
    | .butStep => ["* ", "😔"]

/-- English. -/
def english : Dialect where
  code := "en"
  name := "English"
  native := "English"
  blockSpellings
    | .feature => ["Feature", "Business Need", "Ability"]
    | .rule => ["Rule"]
    | .background => ["Background"]
    | .scenario => ["Example", "Scenario"]
    | .scenarioOutline => ["Scenario Outline", "Scenario Template"]
    | .examples => ["Examples", "Scenarios"]
  stepSpellings
    | .givenStep => ["* ", "Given "]
    | .whenStep => ["* ", "When "]
    | .thenStep => ["* ", "Then "]
    | .andStep => ["* ", "And "]
    | .butStep => ["* ", "But "]

/-- Australian. -/
def australian : Dialect where
  code := "en-au"
  name := "Australian"
  native := "Australian"
  blockSpellings
    | .feature => ["Pretty much"]
    | .rule => ["Rule"]
    | .background => ["First off"]
    | .scenario => ["Awww, look mate"]
    | .scenarioOutline => ["Reckon it's like"]
    | .examples => ["You'll wanna"]
  stepSpellings
    | .givenStep => ["* ", "Y'know "]
    | .whenStep => ["* ", "It's just unbelievable "]
    | .thenStep => ["* ", "But at the end of the day I reckon "]
    | .andStep => ["* ", "Too right "]
    | .butStep => ["* ", "Yeah nah "]

/-- LOLCAT. -/
def lolcat : Dialect where
  code := "en-lol"
  name := "LOLCAT"
  native := "LOLCAT"
  blockSpellings
    | .feature => ["OH HAI"]
    | .rule => ["Rule"]
    | .background => ["B4"]
    | .scenario => ["MISHUN"]
    | .scenarioOutline => ["MISHUN SRSLY"]
    | .examples => ["EXAMPLZ"]
  stepSpellings
    | .givenStep => ["* ", "I CAN HAZ "]
    | .whenStep => ["* ", "WEN "]
    | .thenStep => ["* ", "DEN "]
    | .andStep => ["* ", "AN "]
    | .butStep => ["* ", "BUT "]

/-- Old English. -/
def oldEnglish : Dialect where
  code := "en-old"
  name := "Old English"
  native := "Englisc"
  blockSpellings
    | .feature => ["Hwaet", "Hwæt"]
    | .rule => ["Rule"]
    | .background => ["Aer", "Ær"]
    | .scenario => ["Swa"]
    | .scenarioOutline => ["Swa hwaer swa", "Swa hwær swa"]
    | .examples => ["Se the", "Se þe", "Se ðe"]
  stepSpellings
    | .givenStep => ["* ", "Thurh ", "Þurh ", "Ðurh "]
    | .whenStep =>
        ["* ", "Bæþsealf ", "Bæþsealfa ", "Bæþsealfe ", "Ciricæw ", "Ciricæwe ", "Ciricæwa "]
    | .thenStep => ["* ", "Tha ", "Þa ", "Ða ", "Tha the ", "Þa þe ", "Ða ðe "]
    | .andStep => ["* ", "Ond ", "7 "]
    | .butStep => ["* ", "Ac "]

/-- Pirate. -/
def pirate : Dialect where
  code := "en-pirate"
  name := "Pirate"
  native := "Pirate"
  blockSpellings
    | .feature => ["Ahoy matey!"]
    | .rule => ["Rule"]
    | .background => ["Yo-ho-ho"]
    | .scenario => ["Heave to"]
    | .scenarioOutline => ["Shiver me timbers"]
    | .examples => ["Dead men tell no tales"]
  stepSpellings
    | .givenStep => ["* ", "Gangway! "]
    | .whenStep => ["* ", "Blimey! "]
    | .thenStep => ["* ", "Let go and haul "]
    | .andStep => ["* ", "Aye "]
    | .butStep => ["* ", "Avast! "]

/-- Scouse. -/
def scouse : Dialect where
  code := "en-Scouse"
  name := "Scouse"
  native := "Scouse"
  blockSpellings
    | .feature => ["Feature"]
    | .rule => ["Rule"]
    | .background => ["Dis is what went down"]
    | .scenario => ["The thing of it is"]
    | .scenarioOutline => ["Wharrimean is"]
    | .examples => ["Examples"]
  stepSpellings
    | .givenStep => ["* ", "Givun ", "Youse know when youse got "]
    | .whenStep => ["* ", "Wun ", "Youse know like when "]
    | .thenStep => ["* ", "Dun ", "Den youse gotta "]
    | .andStep => ["* ", "An "]
    | .butStep => ["* ", "Buh "]

/-- Texas. -/
def texas : Dialect where
  code := "en-tx"
  name := "Texas"
  native := "Texas"
  blockSpellings
    | .feature => ["This ain’t my first rodeo", "All gussied up"]
    | .rule => ["Rule "]
    | .background => ["Lemme tell y'all a story"]
    | .scenario => ["All hat and no cattle"]
    | .scenarioOutline => ["Serious as a snake bite", "Busy as a hound in flea season"]
    | .examples => ["Now that's a story longer than a cattle drive in July"]
  stepSpellings
    | .givenStep => ["Fixin' to ", "All git out "]
    | .whenStep => ["Quick out of the chute "]
    | .thenStep => ["There’s no tree but bears some fruit "]
    | .andStep => ["Come hell or high water "]
    | .butStep => ["Well now hold on, I'll you what "]

/-- Esperanto. -/
def esperanto : Dialect where
  code := "eo"
  name := "Esperanto"
  native := "Esperanto"
  blockSpellings
    | .feature => ["Trajto"]
    | .rule => ["Regulo"]
    | .background => ["Fono"]
    | .scenario => ["Ekzemplo", "Scenaro", "Kazo"]
    | .scenarioOutline => ["Konturo de la scenaro", "Skizo", "Kazo-skizo"]
    | .examples => ["Ekzemploj"]
  stepSpellings
    | .givenStep => ["* ", "Donitaĵo ", "Komence "]
    | .whenStep => ["* ", "Se "]
    | .thenStep => ["* ", "Do "]
    | .andStep => ["* ", "Kaj "]
    | .butStep => ["* ", "Sed "]

/-- Spanish. -/
def spanish : Dialect where
  code := "es"
  name := "Spanish"
  native := "español"
  blockSpellings
    | .feature => ["Característica", "Necesidad del negocio", "Requisito"]
    | .rule => ["Regla", "Regla de negocio"]
    | .background => ["Antecedentes"]
    | .scenario => ["Ejemplo", "Escenario"]
    | .scenarioOutline => ["Esquema del escenario"]
    | .examples => ["Ejemplos"]
  stepSpellings
    | .givenStep => ["* ", "Dado ", "Dada ", "Dados ", "Dadas "]
    | .whenStep => ["* ", "Cuando "]
    | .thenStep => ["* ", "Entonces "]
    | .andStep => ["* ", "Y ", "E "]
    | .butStep => ["* ", "Pero "]

/-- Estonian. -/
def estonian : Dialect where
  code := "et"
  name := "Estonian"
  native := "eesti keel"
  blockSpellings
    | .feature => ["Omadus"]
    | .rule => ["Reegel"]
    | .background => ["Taust"]
    | .scenario => ["Juhtum", "Stsenaarium"]
    | .scenarioOutline => ["Raamjuhtum", "Raamstsenaarium"]
    | .examples => ["Juhtumid"]
  stepSpellings
    | .givenStep => ["* ", "Eeldades "]
    | .whenStep => ["* ", "Kui "]
    | .thenStep => ["* ", "Siis "]
    | .andStep => ["* ", "Ja "]
    | .butStep => ["* ", "Kuid "]

end Dialect
end FeatureLexer
