import FeatureLexer.Dialect.Basic

/-!
# The dialects with codes from f to i

The keyword spellings of each natural language, as its speakers write them.
-/

namespace FeatureLexer
namespace Dialect

/-- Persian. -/
def persian : Dialect where
  code := "fa"
  name := "Persian"
  native := "فارسی"
  blockSpellings
    | .feature => ["ویژگی", "قابلیت"]
    | .rule => ["قانون"]
    | .background => ["زمینه", "پیش زمینه", "مقدمات"]
    | .scenario => ["مثال", "سناریو"]
    | .scenarioOutline => ["الگوی سناریو"]
    | .examples => ["نمونه ها"]
  stepSpellings
    | .givenStep => ["* ", "با فرض ", "فرض کنید ", "با در نظر گرفتن "]
    | .whenStep => ["* ", "هنگامی ", "وقتی "]
    | .thenStep => ["* ", "آنگاه ", "سپس ", "انتظار می رود "]
    | .andStep => ["* ", "و "]
    | .butStep => ["* ", "اما "]

/-- Finnish. -/
def finnish : Dialect where
  code := "fi"
  name := "Finnish"
  native := "suomi"
  blockSpellings
    | .feature => ["Ominaisuus"]
    | .rule => ["Rule"]
    | .background => ["Tausta"]
    | .scenario => ["Tapaus"]
    | .scenarioOutline => ["Tapausaihio"]
    | .examples => ["Tapaukset"]
  stepSpellings
    | .givenStep => ["* ", "Oletetaan "]
    | .whenStep => ["* ", "Kun "]
    | .thenStep => ["* ", "Niin "]
    | .andStep => ["* ", "Ja "]
    | .butStep => ["* ", "Mutta "]

/-- French. -/
def french : Dialect where
  code := "fr"
  name := "French"
  native := "français"
  blockSpellings
    | .feature => ["Fonctionnalité"]
    | .rule => ["Règle"]
    | .background => ["Contexte"]
    | .scenario => ["Exemple", "Scénario"]
    | .scenarioOutline => ["Plan du scénario", "Plan du Scénario"]
    | .examples => ["Exemples"]
  stepSpellings
    | .givenStep =>
        ["* ", "Soit ", "Sachant que ", "Sachant qu'", "Sachant ", "Etant donné que ",
         "Etant donné qu'", "Etant donné ", "Etant donnée ", "Etant donnés ", "Etant données ",
         "Étant donné que ", "Étant donné qu'", "Étant donné ", "Étant donnée ", "Étant donnés ",
         "Étant données "]
    | .whenStep => ["* ", "Quand ", "Lorsque ", "Lorsqu'"]
    | .thenStep => ["* ", "Alors ", "Donc "]
    | .andStep => ["* ", "Et que ", "Et qu'", "Et "]
    | .butStep => ["* ", "Mais que ", "Mais qu'", "Mais "]

/-- Irish. -/
def irish : Dialect where
  code := "ga"
  name := "Irish"
  native := "Gaeilge"
  blockSpellings
    | .feature => ["Gné"]
    | .rule => ["Riail"]
    | .background => ["Cúlra"]
    | .scenario => ["Sampla", "Cás"]
    | .scenarioOutline => ["Cás Achomair"]
    | .examples => ["Samplaí"]
  stepSpellings
    | .givenStep =>
        ["* ", "Cuir i gcás go ", "Cuir i gcás nach ", "Cuir i gcás gur ", "Cuir i gcás nár "]
    | .whenStep => ["* ", "Nuair a ", "Nuair nach ", "Nuair ba ", "Nuair nár "]
    | .thenStep => ["* ", "Ansin "]
    | .andStep => ["* ", "Agus "]
    | .butStep => ["* ", "Ach "]

/-- Gujarati. -/
def gujarati : Dialect where
  code := "gj"
  name := "Gujarati"
  native := "ગુજરાતી"
  blockSpellings
    | .feature => ["લક્ષણ", "વ્યાપાર જરૂર", "ક્ષમતા"]
    | .rule => ["નિયમ"]
    | .background => ["બેકગ્રાઉન્ડ"]
    | .scenario => ["ઉદાહરણ", "સ્થિતિ"]
    | .scenarioOutline => ["પરિદ્દશ્ય રૂપરેખા", "પરિદ્દશ્ય ઢાંચો"]
    | .examples => ["ઉદાહરણો"]
  stepSpellings
    | .givenStep => ["* ", "આપેલ છે "]
    | .whenStep => ["* ", "ક્યારે "]
    | .thenStep => ["* ", "પછી "]
    | .andStep => ["* ", "અને "]
    | .butStep => ["* ", "પણ "]

/-- Galician. -/
def galician : Dialect where
  code := "gl"
  name := "Galician"
  native := "galego"
  blockSpellings
    | .feature => ["Característica"]
    | .rule => ["Rule"]
    | .background => ["Contexto"]
    | .scenario => ["Exemplo", "Escenario"]
    | .scenarioOutline => ["Esbozo do escenario"]
    | .examples => ["Exemplos"]
  stepSpellings
    | .givenStep => ["* ", "Dado ", "Dada ", "Dados ", "Dadas "]
    | .whenStep => ["* ", "Cando "]
    | .thenStep => ["* ", "Entón ", "Logo "]
    | .andStep => ["* ", "E "]
    | .butStep => ["* ", "Mais ", "Pero "]

/-- Hebrew. -/
def hebrew : Dialect where
  code := "he"
  name := "Hebrew"
  native := "עברית"
  blockSpellings
    | .feature => ["תכונה"]
    | .rule => ["כלל"]
    | .background => ["רקע"]
    | .scenario => ["דוגמא", "תרחיש"]
    | .scenarioOutline => ["תבנית תרחיש"]
    | .examples => ["דוגמאות"]
  stepSpellings
    | .givenStep => ["* ", "בהינתן "]
    | .whenStep => ["* ", "כאשר "]
    | .thenStep => ["* ", "אז ", "אזי "]
    | .andStep => ["* ", "וגם "]
    | .butStep => ["* ", "אבל "]

/-- Hindi. -/
def hindi : Dialect where
  code := "hi"
  name := "Hindi"
  native := "हिंदी"
  blockSpellings
    | .feature => ["रूप लेख"]
    | .rule => ["नियम"]
    | .background => ["पृष्ठभूमि"]
    | .scenario => ["परिदृश्य"]
    | .scenarioOutline => ["परिदृश्य रूपरेखा"]
    | .examples => ["उदाहरण"]
  stepSpellings
    | .givenStep => ["* ", "अगर ", "यदि ", "चूंकि "]
    | .whenStep => ["* ", "जब ", "कदा "]
    | .thenStep => ["* ", "तब ", "तदा "]
    | .andStep => ["* ", "और ", "तथा "]
    | .butStep => ["* ", "पर ", "परन्तु ", "किन्तु "]

/-- Croatian. -/
def croatian : Dialect where
  code := "hr"
  name := "Croatian"
  native := "hrvatski"
  blockSpellings
    | .feature => ["Osobina", "Mogućnost", "Mogucnost"]
    | .rule => ["Rule"]
    | .background => ["Pozadina"]
    | .scenario => ["Primjer", "Scenarij"]
    | .scenarioOutline => ["Skica", "Koncept"]
    | .examples => ["Primjeri", "Scenariji"]
  stepSpellings
    | .givenStep => ["* ", "Zadan ", "Zadani ", "Zadano ", "Ukoliko "]
    | .whenStep => ["* ", "Kada ", "Kad "]
    | .thenStep => ["* ", "Onda "]
    | .andStep => ["* ", "I "]
    | .butStep => ["* ", "Ali "]

/-- Creole. -/
def creole : Dialect where
  code := "ht"
  name := "Creole"
  native := "kreyòl"
  blockSpellings
    | .feature => ["Karakteristik", "Mak", "Fonksyonalite"]
    | .rule => ["Rule"]
    | .background => ["Kontèks", "Istorik"]
    | .scenario => ["Senaryo"]
    | .scenarioOutline =>
        ["Plan senaryo", "Plan Senaryo", "Senaryo deskripsyon", "Senaryo Deskripsyon",
         "Dyagram senaryo", "Dyagram Senaryo"]
    | .examples => ["Egzanp"]
  stepSpellings
    | .givenStep => ["* ", "Sipoze ", "Sipoze ke ", "Sipoze Ke "]
    | .whenStep => ["* ", "Lè ", "Le "]
    | .thenStep => ["* ", "Lè sa a ", "Le sa a "]
    | .andStep => ["* ", "Ak ", "Epi ", "E "]
    | .butStep => ["* ", "Men "]

/-- Hungarian. -/
def hungarian : Dialect where
  code := "hu"
  name := "Hungarian"
  native := "magyar"
  blockSpellings
    | .feature => ["Jellemző"]
    | .rule => ["Szabály"]
    | .background => ["Háttér"]
    | .scenario => ["Példa", "Forgatókönyv"]
    | .scenarioOutline => ["Forgatókönyv vázlat"]
    | .examples => ["Példák"]
  stepSpellings
    | .givenStep => ["* ", "Amennyiben ", "Adott "]
    | .whenStep => ["* ", "Majd ", "Ha ", "Amikor "]
    | .thenStep => ["* ", "Akkor "]
    | .andStep => ["* ", "És "]
    | .butStep => ["* ", "De "]

/-- Indonesian. -/
def indonesian : Dialect where
  code := "id"
  name := "Indonesian"
  native := "Bahasa Indonesia"
  blockSpellings
    | .feature => ["Fitur"]
    | .rule => ["Rule", "Aturan"]
    | .background => ["Dasar", "Latar Belakang"]
    | .scenario => ["Skenario"]
    | .scenarioOutline => ["Skenario konsep", "Garis-Besar Skenario"]
    | .examples => ["Contoh", "Misal"]
  stepSpellings
    | .givenStep => ["* ", "Dengan ", "Diketahui ", "Diasumsikan ", "Bila ", "Jika "]
    | .whenStep => ["* ", "Ketika "]
    | .thenStep => ["* ", "Maka ", "Kemudian "]
    | .andStep => ["* ", "Dan "]
    | .butStep => ["* ", "Tapi ", "Tetapi "]

/-- Icelandic. -/
def icelandic : Dialect where
  code := "is"
  name := "Icelandic"
  native := "Íslenska"
  blockSpellings
    | .feature => ["Eiginleiki"]
    | .rule => ["Rule"]
    | .background => ["Bakgrunnur"]
    | .scenario => ["Atburðarás"]
    | .scenarioOutline => ["Lýsing Atburðarásar", "Lýsing Dæma"]
    | .examples => ["Dæmi", "Atburðarásir"]
  stepSpellings
    | .givenStep => ["* ", "Ef "]
    | .whenStep => ["* ", "Þegar "]
    | .thenStep => ["* ", "Þá "]
    | .andStep => ["* ", "Og "]
    | .butStep => ["* ", "En "]

/-- Italian. -/
def italian : Dialect where
  code := "it"
  name := "Italian"
  native := "italiano"
  blockSpellings
    | .feature => ["Funzionalità", "Esigenza di Business", "Abilità"]
    | .rule => ["Regola"]
    | .background => ["Contesto"]
    | .scenario => ["Esempio", "Scenario"]
    | .scenarioOutline => ["Schema dello scenario"]
    | .examples => ["Esempi"]
  stepSpellings
    | .givenStep => ["* ", "Dato ", "Data ", "Dati ", "Date "]
    | .whenStep => ["* ", "Quando "]
    | .thenStep => ["* ", "Allora "]
    | .andStep => ["* ", "E ", "Ed "]
    | .butStep => ["* ", "Ma "]

end Dialect
end FeatureLexer
