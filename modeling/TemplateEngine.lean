import TemplateEngine.Main
import TemplateEngine.Proofs.Cache.Refinement
import TemplateEngine.Proofs.Cache.Holds
import TemplateEngine.Proofs.Loader.Isolation
import TemplateEngine.Proofs.Loader.Reuse
import TemplateEngine.Proofs.Loader.Search
import TemplateEngine.Proofs.Loader.Confinement
import TemplateEngine.Proofs.Machine.Accounting
import TemplateEngine.Proofs.Machine.AutoEscape
import TemplateEngine.Proofs.Machine.Bounds
import TemplateEngine.Proofs.Machine.Closures
import TemplateEngine.Proofs.Machine.Discipline
import TemplateEngine.Proofs.Machine.Foreach
import TemplateEngine.Proofs.Machine.Noninterference
import TemplateEngine.Proofs.Machine.Restored
import TemplateEngine.Proofs.Machine.Safety
import TemplateEngine.Proofs.Machine.Written
import TemplateEngine.Proofs.Meaning.Calls
import TemplateEngine.Proofs.Meaning.Correctness
import TemplateEngine.Proofs.Program.Flaws
import TemplateEngine.Proofs.Value.Equality
import TemplateEngine.Proofs.Engine.Ends
import TemplateEngine.Proofs.Engine.Transparent
import TemplateEngine.Proofs.Template.Operators
import TemplateEngine.Proofs.Template.RoundTrip
import TemplateEngine.Proofs.Template.Structure
import TemplateEngine.Proofs.Machine.Included
import TemplateEngine.Proofs.Program.Tables
import TemplateEngine.Proofs.Value.Integers
import TemplateEngine.Proofs.Template.Placed
