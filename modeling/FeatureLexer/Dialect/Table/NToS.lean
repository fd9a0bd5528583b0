import FeatureLexer.Dialect.Basic

/-!
# The dialects with codes from n to s

The keyword spellings of each natural language, as its speakers write them.
-/

namespace FeatureLexer
namespace Dialect

/-- Nepali. -/
def nepali : Dialect where
  code := "ne"
  name := "Nepali"
  native := "नेपाली"
  blockSpellings
    | .feature => ["सुविधा", "विशेषता"]
    | .rule => ["नियम"]
    | .background => ["पृष्ठभूमी"]
    | .scenario => ["परिदृश्य"]
    | .scenarioOutline => ["परिदृश्य रूपरेखा"]
    | .examples => ["उदाहरण", "उदाहरणहरु"]
  stepSpellings
    | .givenStep => ["* ", "दिइएको ", "दिएको ", "यदि "]
    | .whenStep => ["* ", "जब "]
    | .thenStep => ["* ", "त्यसपछि ", "अनी "]
    | .andStep => ["* ", "र ", "अनि "]
    | .butStep => ["* ", "तर "]

/-- Dutch. -/
def dutch : Dialect where
  code := "nl"
  name := "Dutch"
  native := "Nederlands"
  blockSpellings
    | .feature => ["Functionaliteit"]
    | .rule => ["Regel"]
    | .background => ["Achtergrond"]
    | .scenario => ["Voorbeeld", "Scenario"]
    | .scenarioOutline => ["Abstract Scenario"]
    | .examples => ["Voorbeelden"]
  stepSpellings
    | .givenStep => ["* ", "Gegeven ", "Stel "]
    | .whenStep => ["* ", "Als ", "Wanneer "]
    | .thenStep => ["* ", "Dan "]
    | .andStep => ["* ", "En "]
    | .butStep => ["* ", "Maar "]

/-- Norwegian. -/
def norwegian : Dialect where
  code := "no"
  name := "Norwegian"
  native := "norsk"
  blockSpellings
    | .feature => ["Egenskap"]
    | .rule => ["Regel"]
    | .background => ["Bakgrunn"]
    | .scenario => ["Eksempel", "Scenario"]
    | .scenarioOutline => ["Scenariomal", "Abstrakt Scenario"]
    | .examples => ["Eksempler"]
  stepSpellings
    | .givenStep => ["* ", "Gitt "]
    | .whenStep => ["* ", "Når "]
    | .thenStep => ["* ", "Så "]
    | .andStep => ["* ", "Og "]
    | .butStep => ["* ", "Men "]

/-- Panjabi. -/
def panjabi : Dialect where
  code := "pa"
  name := "Panjabi"
  native := "ਪੰਜਾਬੀ"
  blockSpellings
    | .feature => ["ਖਾਸੀਅਤ", "ਮੁਹਾਂਦਰਾ", "ਨਕਸ਼ ਨੁਹਾਰ"]
    | .rule => ["Rule"]
    | .background => ["ਪਿਛੋਕੜ"]
    | .scenario => ["ਉਦਾਹਰਨ", "ਪਟਕਥਾ"]
    | .scenarioOutline => ["ਪਟਕਥਾ ਢਾਂਚਾ", "ਪਟਕਥਾ ਰੂਪ ਰੇਖਾ"]
    | .examples => ["ਉਦਾਹਰਨਾਂ"]
  stepSpellings
    | .givenStep => ["* ", "ਜੇਕਰ ", "ਜਿਵੇਂ ਕਿ "]
    | .whenStep => ["* ", "ਜਦੋਂ "]
    | .thenStep => ["* ", "ਤਦ "]
    | .andStep => ["* ", "ਅਤੇ "]
    | .butStep => ["* ", "ਪਰ "]

/-- Polish. -/
def polish : Dialect where
  code := "pl"
  name := "Polish"
  native := "polski"
  blockSpellings
    | .feature => ["Właściwość", "Funkcja", "Aspekt", "Potrzeba biznesowa"]
    | .rule => ["Zasada", "Reguła"]
    | .background => ["Założenia"]
    | .scenario => ["Przykład", "Scenariusz"]
    | .scenarioOutline => ["Szablon scenariusza"]
    | .examples => ["Przykłady"]
  stepSpellings
    | .givenStep => ["* ", "Zakładając ", "Mając ", "Zakładając, że "]
    | .whenStep => ["* ", "Jeżeli ", "Jeśli ", "Gdy ", "Kiedy "]
    | .thenStep => ["* ", "Wtedy "]
    | .andStep => ["* ", "Oraz ", "I "]
    | .butStep => ["* ", "Ale "]

/-- Portuguese. -/
def portuguese : Dialect where
  code := "pt"
  name := "Portuguese"
  native := "português"
  blockSpellings
    | .feature => ["Funcionalidade", "Característica", "Caracteristica"]
    | .rule => ["Regra"]
    | .background => ["Contexto", "Cenário de Fundo", "Cenario de Fundo", "Fundo"]
    | .scenario => ["Exemplo", "Cenário", "Cenario"]
    | .scenarioOutline =>
        ["Esquema do Cenário", "Esquema do Cenario", "Delineação do Cenário",
         "Delineacao do Cenario"]
    | .examples => ["Exemplos", "Cenários", "Cenarios"]
  stepSpellings
    | .givenStep => ["* ", "Dado ", "Dada ", "Dados ", "Dadas "]
    | .whenStep => ["* ", "Quando "]
    | .thenStep => ["* ", "Então ", "Entao "]
    | .andStep => ["* ", "E "]
    | .butStep => ["* ", "Mas "]

/-- Romanian. -/
def romanian : Dialect where
  code := "ro"
  name := "Romanian"
  native := "română"
  blockSpellings
    | .feature => ["Functionalitate", "Funcționalitate", "Funcţionalitate"]
    | .rule => ["Rule"]
    | .background => ["Context"]
    | .scenario => ["Exemplu", "Scenariu"]
    | .scenarioOutline => ["Structura scenariu", "Structură scenariu"]
    | .examples => ["Exemple"]
  stepSpellings
    | .givenStep =>
        ["* ", "Date fiind ", "Dat fiind ", "Dată fiind", "Dati fiind ", "Dați fiind ",
         "Daţi fiind "]
    | .whenStep => ["* ", "Cand ", "Când "]
    | .thenStep => ["* ", "Atunci "]
    | .andStep => ["* ", "Si ", "Și ", "Şi "]
    | .butStep => ["* ", "Dar "]

/-- Russian. -/
def russian : Dialect where
  code := "ru"
  name := "Russian"
  native := "русский"
  blockSpellings
    | .feature => ["Функция", "Функциональность", "Функционал", "Свойство", "Фича"]
    | .rule => ["Правило"]
    | .background => ["Предыстория", "Контекст"]
    | .scenario => ["Пример", "Сценарий"]
    | .scenarioOutline => ["Структура сценария", "Шаблон сценария"]
    | .examples => ["Примеры", "Значения"]
  stepSpellings
    | .givenStep => ["* ", "Допустим ", "Дано ", "Пусть "]
    | .whenStep => ["* ", "Когда ", "Если "]
    | .thenStep => ["* ", "То ", "Затем ", "Тогда "]
    | .andStep => ["* ", "И ", "К тому же ", "Также "]
    | .butStep => ["* ", "Но ", "А ", "Иначе "]

/-- Slovak. -/
def slovak : Dialect where
  code := "sk"
  name := "Slovak"
  native := "Slovensky"
  blockSpellings
    | .feature => ["Požiadavka", "Funkcia", "Vlastnosť"]
    | .rule => ["Rule"]
    | .background => ["Pozadie"]
    | .scenario => ["Príklad", "Scenár"]
    | .scenarioOutline => ["Náčrt Scenáru", "Náčrt Scenára", "Osnova Scenára"]
    | .examples => ["Príklady"]
  stepSpellings
    | .givenStep => ["* ", "Pokiaľ ", "Za predpokladu "]
    | .whenStep => ["* ", "Keď ", "Ak "]
    | .thenStep => ["* ", "Tak ", "Potom "]
    | .andStep => ["* ", "A ", "A tiež ", "A taktiež ", "A zároveň "]
    | .butStep => ["* ", "Ale "]

/-- Slovenian. -/
def slovenian : Dialect where
  code := "sl"
  name := "Slovenian"
  native := "Slovenski"
  blockSpellings
    | .feature => ["Funkcionalnost", "Funkcija", "Možnosti", "Moznosti", "Lastnost", "Značilnost"]
    | .rule => ["Rule"]
    | .background => ["Kontekst", "Osnova", "Ozadje"]
    | .scenario => ["Primer", "Scenarij"]
    | .scenarioOutline => ["Struktura scenarija", "Skica", "Koncept", "Oris scenarija", "Osnutek"]
    | .examples => ["Primeri", "Scenariji"]
  stepSpellings
    | .givenStep => ["Dano ", "Podano ", "Zaradi ", "Privzeto "]
    | .whenStep => ["Ko ", "Ce ", "Če ", "Kadar "]
    | .thenStep => ["Nato ", "Potem ", "Takrat "]
    | .andStep => ["In ", "Ter "]
    | .butStep => ["Toda ", "Ampak ", "Vendar "]

/-- Serbian. -/
def serbian : Dialect where
  code := "sr-Cyrl"
  name := "Serbian"
  native := "Српски"
  blockSpellings
    | .feature => ["Функционалност", "Могућност", "Особина"]
    | .rule => ["Правило"]
    | .background => ["Контекст", "Основа", "Позадина"]
    | .scenario => ["Сценарио", "Пример"]
    | .scenarioOutline => ["Структура сценарија", "Скица", "Концепт"]
    | .examples => ["Примери", "Сценарији"]
  stepSpellings
    | .givenStep => ["* ", "За дато ", "За дате ", "За дати "]
    | .whenStep => ["* ", "Када ", "Кад "]
    | .thenStep => ["* ", "Онда "]
    | .andStep => ["* ", "И "]
    | .butStep => ["* ", "Али "]

/-- Serbian (Latin). -/
def serbianLatin : Dialect where
  code := "sr-Latn"
  name := "Serbian (Latin)"
  native := "Srpski (Latinica)"
  blockSpellings
    | .feature => ["Funkcionalnost", "Mogućnost", "Mogucnost", "Osobina"]
    | .rule => ["Pravilo"]
    | .background => ["Kontekst", "Osnova", "Pozadina"]
    | .scenario => ["Scenario", "Primer"]
    | .scenarioOutline => ["Struktura scenarija", "Skica", "Koncept"]
    | .examples => ["Primeri", "Scenariji"]
  stepSpellings
    | .givenStep => ["* ", "Za dato ", "Za date ", "Za dati "]
    | .whenStep => ["* ", "Kada ", "Kad "]
    | .thenStep => ["* ", "Onda "]
    | .andStep => ["* ", "I "]
    | .butStep => ["* ", "Ali "]

/-- Swedish. -/
def swedish : Dialect where
  code := "sv"
  name := "Swedish"
  native := "Svenska"
  blockSpellings
    | .feature => ["Egenskap"]
    | .rule => ["Regel"]
    | .background => ["Bakgrund"]
    | .scenario => ["Scenario"]
    | .scenarioOutline => ["Abstrakt Scenario", "Scenariomall"]
    | .examples => ["Exempel"]
  stepSpellings
    | .givenStep => ["* ", "Givet "]
    | .whenStep => ["* ", "När "]
    | .thenStep => ["* ", "Så "]
    | .andStep => ["* ", "Och "]
    | .butStep => ["* ", "Men "]

end Dialect
end FeatureLexer
