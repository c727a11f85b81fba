import ArtForgeStudio.Recovery.Safety
import ArtForgeStudio.Recovery.VideoRequests
import ArtForgeStudio.Session.Tokens
import ArtForgeStudio.Session.Credential
import ArtForgeStudio.Generation.Safety
import ArtForgeStudio.Billing.Authority
import ArtForgeStudio.ClientState.Guarantees
import ArtForgeStudio.Session.ScopedCall
import ArtForgeStudio.Redemption.Safety
import ArtForgeStudio.Payment.Safety
import ArtForgeStudio.Gates.UserActivity
import ArtForgeStudio.Gates.NamespaceOperations
import ArtForgeStudio.Directories.UserNamespace
import ArtForgeStudio.AccountTransition.Safety
import ArtForgeStudio.DirectoryMigration.Safety
import ArtForgeStudio.LocalStore.Relocated
import ArtForgeStudio.Canvas.Groups
import ArtForgeStudio.Directories.ManagedKeys
import ArtForgeStudio.FileIndex.Recency
import ArtForgeStudio.FileIndex.Migration
import ArtForgeStudio.Canvas.Capacity
import ArtForgeStudio.Canvas.Grouping
import ArtForgeStudio.Canvas.Copies
import ArtForgeStudio.Canvas.Fitting
import ArtForgeStudio.Deliveries.Runs
import ArtForgeStudio.Deliveries.Reservations
import ArtForgeStudio.Credits.Versions
import ArtForgeStudio.Canvas.Restarts
import ArtForgeStudio.Canvas.Shapes
import ArtForgeStudio.Canvas.Removal
import ArtForgeStudio.Images.Compression
import ArtForgeStudio.Images.Components
import ArtForgeStudio.Images.Background
import ArtForgeStudio.Prompts.Generation
import ArtForgeStudio.Prompts.Markers
import ArtForgeStudio.Prompts.Applications
import ArtForgeStudio.Previews.CacheOrder
import ArtForgeStudio.Previews.WorkAccounts
import ArtForgeStudio.Gallery.Paging
import ArtForgeStudio.PromptOptimization.Safety
import ArtForgeStudio.PromptTasks.Safety
import ArtForgeStudio.VideoPlayer.Preparation
import ArtForgeStudio.Inbox.Actions
import ArtForgeStudio.Inbox.Popups
