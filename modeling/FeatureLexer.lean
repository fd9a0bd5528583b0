import FeatureLexer.Feature
import FeatureLexer.Proofs.Language.Spelling
import FeatureLexer.Proofs.Lexer.Reading
import FeatureLexer.Session.Step
import FeatureLexer.Proofs.Lexer.Lexeme
import FeatureLexer.Proofs.Lexer.Prediction
import FeatureLexer.Proofs.Lexer.Scan
import FeatureLexer.Proofs.Lexer.Steps
import FeatureLexer.Proofs.Session.Drain
import FeatureLexer.Proofs.Session.Progress
import FeatureLexer.Proofs.Session.Coverage
import FeatureLexer.Proofs.Session.Lines
import FeatureLexer.Proofs.Session.LineGrammar
import FeatureLexer.Proofs.Lexer.Atomicity
import FeatureLexer.Proofs.Lexer.Dispatch
import FeatureLexer.Proofs.Session.Draws
import FeatureLexer.Proofs.Session.LineState
import FeatureLexer.Proofs.Session.Laziness
import FeatureLexer.Proofs.Lexer.Closure
import FeatureLexer.Proofs.Session.Warnings
import FeatureLexer.Proofs.Lexer.Directive
import FeatureLexer.Proofs.Session.Diagnostics
import FeatureLexer.Proofs.Feature.LanguageChoice
import FeatureLexer.Proofs.Feature.LineBreaks
import FeatureLexer.Proofs.Language.LongestSpelling
import FeatureLexer.Proofs.Session.LineConsistency
import FeatureLexer.Proofs.Feature.SourceName
import FeatureLexer.Proofs.Feature.TableRows
import FeatureLexer.Proofs.Language.Vocabulary
import FeatureLexer.Proofs.Feature.Keywords
import FeatureLexer.Proofs.Language.Names
import FeatureLexer.Proofs.Feature.Layout
import FeatureLexer.Proofs.Token.Payload
import FeatureLexer.Proofs.Cursor.Glyphs
import FeatureLexer.Proofs.Feature.Descriptions
import FeatureLexer.Proofs.Text.Backtracking
import FeatureLexer.Proofs.Lexer.Comment
import FeatureLexer.Proofs.Feature.FileNames
