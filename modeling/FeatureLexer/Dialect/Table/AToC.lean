import FeatureLexer.Dialect.Basic

/-!
# The dialects with codes from a to c

The keyword spellings of each natural language, as its speakers write them.
-/

namespace FeatureLexer
namespace Dialect

/-- Afrikaans. -/
def afrikaans : Dialect where
  code := "af"
  name := "Afrikaans"
  native := "Afrikaans"
  blockSpellings
    | .feature => ["Funksie", "Besigheid Behoefte", "Vermoë"]
    | .rule => ["Reël", "Reel"]
    | .background => ["Agtergrond"]
    | .scenario => ["Voorbeeld", "Situasie"]
    | .scenarioOutline => ["Situasie Uiteensetting"]
    | .examples => ["Voorbeelde"]
  stepSpellings
    | .givenStep => ["* ", "Gegewe "]
    | .whenStep => ["* ", "Wanneer "]
    | .thenStep => ["* ", "Dan "]
    | .andStep => ["* ", "En "]
    | .butStep => ["* ", "Maar "]

/-- Armenian. -/
def armenian : Dialect where
  code := "am"
  name := "Armenian"
  native := "հայերեն"
  blockSpellings
    | .feature => ["Ֆունկցիոնալություն", "Հատկություն"]
    | .rule => ["Rule"]
    | .background => ["Կոնտեքստ"]
    | .scenario => ["Օրինակ", "Սցենար"]
    | .scenarioOutline => ["Սցենարի կառուցվացքը"]
    | .examples => ["Օրինակներ"]
  stepSpellings
    | .givenStep => ["* ", "Դիցուք "]
    | .whenStep => ["* ", "Եթե ", "Երբ "]
    | .thenStep => ["* ", "Ապա "]
    | .andStep => ["* ", "Եվ "]
    | .butStep => ["* ", "Բայց "]

/-- Amharic. -/
def amharic : Dialect where
  code := "amh"
  name := "Amharic"
  native := "አማርኛ"
  blockSpellings
    | .feature => ["ስራ", "የተፈለገው ስራ", "የሚፈለገው ድርጊት"]
    | .rule => ["ህግ"]
    | .background => ["ቅድመ ሁኔታ", "መነሻ", "መነሻ ሀሳብ"]
    | .scenario => ["ምሳሌ", "ሁናቴ"]
    | .scenarioOutline => ["ሁናቴ ዝርዝር", "ሁናቴ አብነት"]
    | .examples => ["ምሳሌዎች", "ሁናቴዎች"]
  stepSpellings
    | .givenStep => ["* ", "የተሰጠ "]
    | .whenStep => ["* ", "መቼ "]
    | .thenStep => ["* ", "ከዚያ "]
    | .andStep => ["* ", "እና "]
    | .butStep => ["* ", "ግን "]

/-- Aragonese. -/
def aragonese : Dialect where
  code := "an"
  name := "Aragonese"
  native := "Aragonés"
  blockSpellings
    | .feature => ["Caracteristica"]
    | .rule => ["Rule"]
    | .background => ["Antecedents"]
    | .scenario => ["Eixemplo", "Caso"]
    | .scenarioOutline => ["Esquema del caso"]
    | .examples => ["Eixemplos"]
  stepSpellings
    | .givenStep => ["* ", "Dau ", "Dada ", "Daus ", "Dadas "]
    | .whenStep => ["* ", "Cuan "]
    | .thenStep => ["* ", "Alavez ", "Allora ", "Antonces "]
    | .andStep => ["* ", "Y ", "E "]
    | .butStep => ["* ", "Pero "]

/-- Arabic. -/
def arabic : Dialect where
  code := "ar"
  name := "Arabic"
  native := "العربية"
  blockSpellings
    | .feature => ["خاصية"]
    | .rule => ["Rule"]
    | .background => ["الخلفية"]
    | .scenario => ["مثال", "سيناريو"]
    | .scenarioOutline => ["سيناريو مخطط"]
    | .examples => ["امثلة"]
  stepSpellings
    | .givenStep => ["* ", "بفرض "]
    | .whenStep => ["* ", "متى ", "عندما "]
    | .thenStep => ["* ", "اذاً ", "ثم "]
    | .andStep => ["* ", "و "]
    | .butStep => ["* ", "لكن "]

/-- Asturian. -/
def asturian : Dialect where
  code := "ast"
  name := "Asturian"
  native := "asturianu"
  blockSpellings
    | .feature => ["Carauterística"]
    | .rule => ["Rule"]
    | .background => ["Antecedentes"]
    | .scenario => ["Exemplo", "Casu"]
    | .scenarioOutline => ["Esbozu del casu"]
    | .examples => ["Exemplos"]
  stepSpellings
    | .givenStep => ["* ", "Dáu ", "Dada ", "Daos ", "Daes "]
    | .whenStep => ["* ", "Cuando "]
    | .thenStep => ["* ", "Entós "]
    | .andStep => ["* ", "Y ", "Ya "]
    | .butStep => ["* ", "Peru "]

/-- Azerbaijani. -/
def azerbaijani : Dialect where
  code := "az"
  name := "Azerbaijani"
  native := "Azərbaycanca"
  blockSpellings
    | .feature => ["Özəllik"]
    | .rule => ["Rule"]
    | .background => ["Keçmiş", "Kontekst"]
    | .scenario => ["Nümunə", "Ssenari"]
    | .scenarioOutline => ["Ssenarinin strukturu"]
    | .examples => ["Nümunələr"]
  stepSpellings
    | .givenStep => ["* ", "Tutaq ki ", "Verilir "]
    | .whenStep => ["* ", "Əgər ", "Nə vaxt ki "]
    | .thenStep => ["* ", "O halda "]
    | .andStep => ["* ", "Və ", "Həm "]
    | .butStep => ["* ", "Amma ", "Ancaq "]

/-- Belarusian. -/
def belarusian : Dialect where
  code := "be"
  name := "Belarusian"
  native := "Беларуская"
  blockSpellings
    | .feature => ["Функцыянальнасць", "Фіча"]
    | .rule => ["Правілы"]
    | .background => ["Кантэкст"]
    | .scenario => ["Сцэнарый", "Cцэнар"]
    | .scenarioOutline => ["Шаблон сцэнарыя", "Узор сцэнара"]
    | .examples => ["Прыклады"]
  stepSpellings
    | .givenStep => ["* ", "Няхай ", "Дадзена "]
    | .whenStep => ["* ", "Калі "]
    | .thenStep => ["* ", "Тады "]
    | .andStep => ["* ", "I ", "Ды ", "Таксама "]
    | .butStep => ["* ", "Але ", "Інакш "]

/-- Bulgarian. -/
def bulgarian : Dialect where
  code := "bg"
  name := "Bulgarian"
  native := "български"
  blockSpellings
    | .feature => ["Функционалност"]
    | .rule => ["Правило"]
    | .background => ["Предистория"]
    | .scenario => ["Пример", "Сценарий"]
    | .scenarioOutline => ["Рамка на сценарий"]
    | .examples => ["Примери"]
  stepSpellings
    | .givenStep => ["* ", "Дадено "]
    | .whenStep => ["* ", "Когато "]
    | .thenStep => ["* ", "То "]
    | .andStep => ["* ", "И "]
    | .butStep => ["* ", "Но "]

/-- Malay. -/
def malay : Dialect where
  code := "bm"
  name := "Malay"
  native := "Bahasa Melayu"
  blockSpellings
    | .feature => ["Fungsi"]
    | .rule => ["Rule"]
    | .background => ["Latar Belakang"]
    | .scenario => ["Senario", "Situasi", "Keadaan"]
    | .scenarioOutline =>
        ["Kerangka Senario", "Kerangka Situasi", "Kerangka Keadaan", "Garis Panduan Senario"]
    | .examples => ["Contoh"]
  stepSpellings
    | .givenStep => ["* ", "Diberi ", "Bagi "]
    | .whenStep => ["* ", "Apabila "]
    | .thenStep => ["* ", "Maka ", "Kemudian "]
    | .andStep => ["* ", "Dan "]
    | .butStep => ["* ", "Tetapi ", "Tapi "]

/-- Bosnian. -/
def bosnian : Dialect where
  code := "bs"
  name := "Bosnian"
  native := "Bosanski"
  blockSpellings
    | .feature => ["Karakteristika"]
    | .rule => ["Rule"]
    | .background => ["Pozadina"]
    | .scenario => ["Primjer", "Scenariju", "Scenario"]
    | .scenarioOutline => ["Scenariju-obris", "Scenario-outline"]
    | .examples => ["Primjeri"]
  stepSpellings
    | .givenStep => ["* ", "Dato "]
    | .whenStep => ["* ", "Kada "]
    | .thenStep => ["* ", "Zatim "]
    | .andStep => ["* ", "I ", "A "]
    | .butStep => ["* ", "Ali "]

/-- Catalan. -/
def catalan : Dialect where
  code := "ca"
  name := "Catalan"
  native := "català"
  blockSpellings
    | .feature => ["Característica", "Funcionalitat"]
    | .rule => ["Rule"]
    | .background => ["Rerefons", "Antecedents"]
    | .scenario => ["Exemple", "Escenari"]
    | .scenarioOutline => ["Esquema de l'escenari"]
    | .examples => ["Exemples"]
  stepSpellings
    | .givenStep => ["* ", "Donat ", "Donada ", "Atès ", "Atesa "]
    | .whenStep => ["* ", "Quan "]
    | .thenStep => ["* ", "Aleshores ", "Cal "]
    | .andStep => ["* ", "I "]
    | .butStep => ["* ", "Però "]

/-- Czech. -/
def czech : Dialect where
  code := "cs"
  name := "Czech"
  native := "Česky"
  blockSpellings
    | .feature => ["Požadavek"]
    | .rule => ["Pravidlo"]
    | .background => ["Pozadí", "Kontext"]
    | .scenario => ["Příklad", "Scénář"]
    | .scenarioOutline => ["Náčrt Scénáře", "Osnova scénáře"]
    | .examples => ["Příklady"]
  stepSpellings
    | .givenStep => ["* ", "Pokud ", "Za předpokladu "]
    | .whenStep => ["* ", "Když "]
    | .thenStep => ["* ", "Pak "]
    | .andStep => ["* ", "A také ", "A "]
    | .butStep => ["* ", "Ale "]

/-- Welsh. -/
def welsh : Dialect where
  code := "cy-GB"
  name := "Welsh"
  native := "Cymraeg"
  blockSpellings
    | .feature => ["Arwedd"]
    | .rule => ["Rule"]
    | .background => ["Cefndir"]
    | .scenario => ["Enghraifft", "Scenario"]
    | .scenarioOutline => ["Scenario Amlinellol"]
    | .examples => ["Enghreifftiau"]
  stepSpellings
    | .givenStep => ["* ", "Anrhegedig a "]
    | .whenStep => ["* ", "Pryd "]
    | .thenStep => ["* ", "Yna "]
    | .andStep => ["* ", "A "]
    | .butStep => ["* ", "Ond "]

end Dialect
end FeatureLexer
